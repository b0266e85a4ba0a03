import LociTerm.Api.UploadOwners
import Mathlib.Data.List.FinRange

/-!
# Concurrent uploads of one name

Requests for one name look for a free candidate and create it in two steps.
Two requests that find the same candidate free both try to create it, and the
later one does not look for another.
-/

namespace LociTerm
namespace Upload

open Filepath Client

/-- Requests for one name on an existing session, to a directory without
files. -/
structure Race (raw : Bytes) (start : Uploads) : Prop where
  fresh : start.Fresh
  requests : ∀ id upload, start.uploads.get? id = some upload →
    ∃ content, upload.request = ⟨.ok true, .parsed (some ⟨raw, content⟩)⟩
  empty : ∀ name, Plain name →
    start.files.get? (join start.directory name) = none
  few : start.uploads.keys.length < 10000

/-- The candidate that the request has chosen exists. -/
def Uploads.taken (state : Uploads) (id : Nat) : Bool :=
  match state.uploads.get? id with
  | some ⟨_, .chosen file k⟩ =>
      (state.files.get? (file.path state.directory k)).isSome
  | _ => false

/-- No access fails, other than a create of a path that exists. -/
def Faultless (state : Uploads) (label : Nat × Action) : Prop :=
  match label.2 with
  | .mkdirAll failure => failure = none
  | .stat fails => fails = false
  | .openFile (some _) => state.taken label.1 = true
  | .copyFails _ => False
  | _ => True

instance (state : Uploads) (label : Nat × Action) :
    Decidable (Faultless state label) :=
  match label with
  | (_, .mkdirAll failure) => inferInstanceAs (Decidable (failure = none))
  | (_, .stat fails) => inferInstanceAs (Decidable (fails = false))
  | (id, .openFile (some _)) =>
      inferInstanceAs (Decidable (state.taken id = true))
  | (_, .copyFails _) => inferInstanceAs (Decidable False)
  | (_, .receive) | (_, .openFile none) | (_, .write _) | (_, .copied)
  | (_, .remove) => inferInstanceAs (Decidable True)

/-- The name is one that the handler accepts, and a candidate that is created
has stayed free since it was probed. -/
def Clear (raw : Bytes) (state : Uploads) (label : Nat × Action) : Prop :=
  match label.2 with
  | .receive => sanitizeUploadFilename raw ≠ []
  | .openFile _ => state.taken label.1 = false
  | _ => True

/-- Every request has answered. -/
def Uploads.Complete (state : Uploads) : Prop :=
  ∀ id upload, state.uploads.get? id = some upload →
    ∃ response, upload.stage = .answered response

/-- Every request has answered with success, each with its own path. -/
def Uploads.AllOk (state : Uploads) : Prop :=
  (∀ id upload, state.uploads.get? id = some upload →
    ∃ stored, upload.stage = .answered ⟨200, .ok stored⟩) ∧
  ∀ id other upload attempt stored another,
    state.uploads.get? id = some upload →
    upload.stage = .answered ⟨200, .ok stored⟩ →
    state.uploads.get? other = some attempt →
    attempt.stage = .answered ⟨200, .ok another⟩ →
    id ≠ other → stored.path ≠ another.path

/-! ## The work that is left -/

/-- A bound on the steps that are left of a request. -/
def Attempt.work (upload : Attempt) : Nat :=
  match upload.stage with
  | .received =>
      match upload.request.form with
      | .parsed (some sent) => 10007 + sent.content.length
      | _ => 1
  | .accepted file => 10006 + file.content.length
  | .probing file k => 5 + (10000 - k) + file.content.length
  | .chosen file _ => 4 + file.content.length
  | .copying file _ written => 2 + (file.content.length - written)
  | .removing .. => 1
  | .answered _ => 0

theorem one_le_work_received (request : Request) :
    1 ≤ Attempt.work ⟨request, .received⟩ := by
  obtain ⟨session, form⟩ := request
  cases form with
  | tooLarge | malformed message => exact le_rfl
  | parsed file =>
      cases file with
      | none => exact le_rfl
      | some sent =>
          simp only [Attempt.work]
          omega

theorem work_receive (request : Request) :
    Attempt.work ⟨request, receive request⟩ + 1 ≤
      Attempt.work ⟨request, .received⟩ := by
  have some_work := one_le_work_received request
  obtain ⟨session, form⟩ := request
  unfold receive
  split
  · exact some_work
  · exact some_work
  · cases form with
    | tooLarge | malformed message => exact some_work
    | parsed file =>
        cases file with
        | none => exact some_work
        | some sent =>
            dsimp only
            split
            · exact some_work
            · simp only [Attempt.work]
              omega

/-- Every step of a request leaves it less work. -/
theorem work_moves
    {directory : Bytes}
    {files others : Table Bytes Entry}
    {request : Request}
    {stage next : Stage}
    {action : Action}
    (moves : Moves directory files request stage action others next) :
    Attempt.work ⟨request, next⟩ + 1 ≤ Attempt.work ⟨request, stage⟩ := by
  cases moves with
  | receive => exact work_receive request
  | _ =>
      simp only [Attempt.work]
      omega

variable {raw : Bytes} {start state next : Uploads}
  {labels : List (Nat × Action)}

/-- Every run is bounded by the work there is. -/
theorem length_le_of_run (ran : run step start labels = some state) :
    state.uploads.total Attempt.work + labels.length ≤
      start.uploads.total Attempt.work := by
  induction labels generalizing start with
  | nil =>
      cases ran
      simp
  | cons label labels inductionHypothesis =>
      obtain ⟨next, stepped, rest⟩ := (run_cons_eq_some step).mp ran
      obtain ⟨⟨request, before⟩, files, stage, found, moves, rfl⟩ :=
        step_cases stepped
      have later := inductionHypothesis rest
      have less := work_moves moves
      have change :
          (start.uploads.set _ ⟨request, stage⟩).total Attempt.work +
              Attempt.work ⟨request, before⟩ =
            start.uploads.total Attempt.work + Attempt.work ⟨request, stage⟩ :=
        Table.total_set _ found
      simp only [List.length_cons]
      dsimp only at later less
      omega

/-! ## Requests of a race -/

/-- What holds of a request of a race as long as no access fails. -/
def Attempt.Racing
    (raw directory : Bytes)
    (files : Table Bytes Entry)
    (upload : Attempt) : Prop :=
  (∃ content, upload.request = ⟨.ok true, .parsed (some ⟨raw, content⟩)⟩) ∧
    match upload.stage with
    | .received | .answered _ => True
    | .accepted file | .chosen file _ =>
        sanitizeUploadFilename raw ≠ [] ∧ file.name = sanitizeUploadFilename raw
    | .probing file k =>
        (sanitizeUploadFilename raw ≠ [] ∧
          file.name = sanitizeUploadFilename raw) ∧
          ∀ j < k, files.get? (file.path directory j) ≠ none
    | .copying file _ written => written ≤ file.content.length
    | .removing .. => False

/-- The invariant of a race in which no access fails. -/
structure Racing (raw : Bytes) (start state : Uploads) : Prop where
  owned : Owned start state
  keys : state.uploads.keys = start.uploads.keys
  each : ∀ id upload, state.uploads.get? id = some upload →
    upload.Racing raw state.directory state.files

theorem racing_start (race : Race raw start) : Racing raw start start where
  owned := owned_start race.fresh
  keys := rfl
  each id upload found := by
    have stage := race.fresh id upload found
    have requested := race.requests id upload found
    obtain ⟨request, _⟩ := upload
    subst stage
    exact ⟨requested, trivial⟩

/-- Files are only removed after a copy has failed. -/
theorem present_moves
    {directory path : Bytes}
    {files others : Table Bytes Entry}
    {request : Request}
    {stage next : Stage}
    {action : Action}
    (racing : Attempt.Racing raw directory files ⟨request, stage⟩)
    (moves : Moves directory files request stage action others next)
    (present : files.get? path ≠ none) :
    others.get? path ≠ none := by
  have set_present : ∀ (other : Bytes) (entry : Entry),
      (files.set other entry).get? path ≠ none := by
    intro other entry
    rw [Table.get?_set]
    split
    · simp
    · exact present
  cases moves with
  | openFile file k free => exact set_present _ _
  | write file k written count positive fits => exact set_present _ _
  | remove file k written failure => exact racing.2.elim
  | _ => exact present

/-- A name that `os.Stat` finds without failing exists. -/
theorem get?_ne_none_of_taken
    {files : Table Bytes Entry}
    {path : Bytes}
    {fails : Bool}
    (faultless : fails = false)
    (taken : fails = true ∨ missing files path = false) :
    files.get? path ≠ none := by
  intro absent
  simp [faultless, missing, absent] at taken

/-- A request of a race is refused exactly for its name. -/
theorem receive_of_requested (raw content : Bytes) :
    receive ⟨.ok true, .parsed (some ⟨raw, content⟩)⟩ =
      if sanitizeUploadFilename raw = [] then
        .answered (writeError 400 "invalid filename")
      else .accepted ⟨sanitizeUploadFilename raw, content⟩ := rfl

/-- A step of a request that meets no failure keeps what holds of it. -/
theorem racing_moves
    {id : Nat}
    {files : Table Bytes Entry}
    {request : Request}
    {stage next : Stage}
    {action : Action}
    (racing : Attempt.Racing raw state.directory state.files ⟨request, stage⟩)
    (faultless : Faultless state (id, action))
    (moves : Moves state.directory state.files request stage action files next) :
    Attempt.Racing raw state.directory files ⟨request, next⟩ := by
  cases moves with
  | receive =>
      obtain ⟨⟨content, rfl⟩, -⟩ := racing
      refine ⟨⟨content, rfl⟩, ?_⟩
      dsimp only
      rw [receive_of_requested]
      by_cases refused : sanitizeUploadFilename raw = []
      · simp [refused]
      · simp [refused]
  | mkdirAll file => exact ⟨racing.1, racing.2, nofun⟩
  | statMissing file k absent => exact ⟨racing.1, racing.2.1⟩
  | statTaken file k fails taken more =>
      refine ⟨racing.1, racing.2.1, fun j earlier => ?_⟩
      rcases Nat.lt_succ_iff_lt_or_eq.mp earlier with before | rfl
      · exact racing.2.2 j before
      · exact get?_ne_none_of_taken faultless taken
  | openFile file k free => exact ⟨racing.1, Nat.zero_le _⟩
  | write file k written count positive fits => exact ⟨racing.1, fits⟩
  | copyFails file k written failure => exact faultless.elim
  | remove file k written failure => exact racing.2.elim
  | mkdirAllFails | statLast | openFileFails | copied =>
      exact ⟨racing.1, trivial⟩

theorem Attempt.Racing.congr
    {directory : Bytes}
    {files others : Table Bytes Entry}
    {upload : Attempt}
    (racing : upload.Racing raw directory files)
    (present : ∀ path, files.get? path ≠ none → others.get? path ≠ none) :
    upload.Racing raw directory others := by
  obtain ⟨request, stage⟩ := upload
  cases stage with
  | probing file k =>
      exact ⟨racing.1, racing.2.1,
        fun j earlier => present _ (racing.2.2 j earlier)⟩
  | _ => exact racing

theorem racing_step
    {label : Nat × Action}
    (racing : Racing raw start state)
    (faultless : Faultless state label)
    (stepped : step state label = some next) :
    Racing raw start next := by
  obtain ⟨id, action⟩ := label
  have owned := owned_step racing.owned stepped
  obtain ⟨upload, files, stage, found, moves, rfl⟩ := step_cases stepped
  have mine := racing.each id upload found
  refine ⟨owned, (Table.keys_set _ found).trans racing.keys, ?_⟩
  intro other attempt there
  dsimp only at there
  rw [Table.get?_set] at there
  split at there
  · have onward := racing_moves mine faultless moves
    cases there
    exact onward
  · exact (racing.each other attempt there).congr fun path present =>
      present_moves mine moves present

/-! ## No request runs out of candidates -/

/-- Candidates that exist were created by other requests. -/
theorem candidates_left
    {id k : Nat}
    {upload : Attempt}
    {file : File}
    (race : Race raw start)
    (racing : Racing raw start state)
    (found : state.uploads.get? id = some upload)
    (probing : upload.stage = .probing file k)
    (taken : state.files.get? (file.path state.directory k) ≠ none) :
    k + 1 < 10000 := by
  obtain ⟨-, facts⟩ := racing.each id upload found
  rw [probing] at facts
  obtain ⟨⟨accepted, named⟩, earlier⟩ := facts
  have usable : Usable file.name := named ▸ usable_sanitizeUploadFilename accepted
  have plain : ∀ j, Plain (candidate file.name j) := fun j =>
    (usable.candidate j).plain
  have present : ∀ j < k + 1, state.files.get? (file.path state.directory j) ≠ none := by
    intro j below
    rcases Nat.lt_succ_iff_lt_or_eq.mp below with before | rfl
    · exact earlier j before
    · exact taken
  have created : ∀ j : Fin (k + 1),
      ∃ owner, state.Owns owner (file.path state.directory j) := by
    intro j
    apply racing.owned.owned _ (present j j.isLt)
    rw [File.path, racing.owned.directory]
    exact race.empty _ (plain j)
  choose owner owns using created
  have separate : Function.Injective owner := by
    intro i j same
    obtain ⟨first, there, left⟩ := owns i
    obtain ⟨second, again, right⟩ := owns j
    rw [same, again] at there
    cases there
    have paths := Option.some.inj (left.symm.trans right)
    exact Fin.ext (candidate_injective file.name
      (join_injective (plain i) (plain j) paths))
  have others : ∀ j, owner j ∈ state.uploads.keys.erase id := by
    intro j
    obtain ⟨attempt, there, holds⟩ := owns j
    have different : owner j ≠ id := by
      rintro same
      rw [same, found] at there
      cases there
      rw [probing] at holds
      cases holds
    rw [List.mem_erase_of_ne different, Table.mem_keys_iff, there]
    rfl
  have member : id ∈ state.uploads.keys := by
    rw [Table.mem_keys_iff, found]
    rfl
  have count : k + 1 ≤ (state.uploads.keys.erase id).length := by
    have nodup : (List.ofFn owner).Nodup := List.nodup_ofFn.mpr separate
    have inside : List.ofFn owner ⊆ state.uploads.keys.erase id := by
      intro value listed
      obtain ⟨j, rfl⟩ := List.mem_ofFn.mp listed
      exact others j
    simpa using (List.subperm_of_subset nodup inside).length_le
  rw [List.length_erase_of_mem member, racing.keys] at count
  have few := race.few
  omega

/-! ## When every request succeeds -/

/-- The request has not answered with an error. -/
def Stage.Fine (stage : Stage) : Prop :=
  ∀ response, stage = .answered response →
    ∃ stored, response = ⟨200, .ok stored⟩

theorem Stage.fine_of_ne
    {stage : Stage}
    (pending : ∀ response, stage ≠ .answered response) :
    stage.Fine :=
  fun response same => absurd same (pending response)

theorem not_fine_error (status : Nat) (message : String) :
    ¬ (Stage.answered (writeError status message)).Fine := by
  intro fine
  obtain ⟨stored, same⟩ := fine _ rfl
  cases same

/-- A request that has answered takes no more steps. -/
theorem fine_of_moves
    {directory : Bytes}
    {files others : Table Bytes Entry}
    {request : Request}
    {stage next : Stage}
    {action : Action}
    (moves : Moves directory files request stage action others next) :
    stage.Fine := by
  cases moves <;> exact Stage.fine_of_ne nofun

/-- A step leads to an error answer exactly if it is not clear. -/
theorem fine_moves_iff
    {id : Nat}
    {files : Table Bytes Entry}
    {request : Request}
    {stage next : Stage}
    {action : Action}
    (race : Race raw start)
    (racing : Racing raw start state)
    (found : state.uploads.get? id = some ⟨request, stage⟩)
    (faultless : Faultless state (id, action))
    (moves : Moves state.directory state.files request stage action files next) :
    next.Fine ↔ Clear raw state (id, action) := by
  cases moves with
  | receive =>
      obtain ⟨⟨content, rfl⟩, -⟩ := racing.each id _ found
      rw [receive_of_requested]
      by_cases refused : sanitizeUploadFilename raw = []
      · rw [if_pos refused]
        exact iff_of_false (not_fine_error _ _) fun accepted => accepted refused
      · rw [if_neg refused]
        exact iff_of_true (Stage.fine_of_ne nofun) refused
  | mkdirAll | statMissing | statTaken | write =>
      exact iff_of_true (Stage.fine_of_ne nofun) trivial
  | mkdirAllFails file message => cases faultless
  | statLast file k fails taken last =>
      exact absurd (candidates_left race racing found rfl
        (get?_ne_none_of_taken faultless taken)) last
  | openFile file k free =>
      refine iff_of_true (Stage.fine_of_ne nofun) ?_
      simp [Clear, Uploads.taken, found, free]
  | openFileFails file k message =>
      refine iff_of_false (not_fine_error _ _) fun clear => ?_
      have taken : state.taken id = true := faultless
      cases taken.symm.trans clear
  | copied file k written whole =>
      refine iff_of_true ?_ trivial
      rintro response ⟨⟩
      exact ⟨_, rfl⟩
  | copyFails file k written failure => exact faultless.elim
  | remove file k written failure => exact (racing.each id _ found).2.elim

/-- No request has answered with an error. -/
def Uploads.AllFine (state : Uploads) : Prop :=
  ∀ id upload, state.uploads.get? id = some upload → upload.stage.Fine

theorem allFine_step_iff
    {label : Nat × Action}
    (race : Race raw start)
    (racing : Racing raw start state)
    (faultless : Faultless state label)
    (stepped : step state label = some next) :
    next.AllFine ↔ state.AllFine ∧ Clear raw state label := by
  obtain ⟨id, action⟩ := label
  obtain ⟨upload, files, stage, found, moves, rfl⟩ := step_cases stepped
  rw [← fine_moves_iff race racing found faultless moves]
  constructor
  · intro fine
    refine ⟨fun other attempt there => ?_, fine id _ (Table.get?_set_self _ _ _)⟩
    by_cases actor : id = other
    · subst actor
      rw [found] at there
      cases there
      exact fine_of_moves moves
    · exact fine other attempt ((Table.get?_set_of_ne _ _ actor).trans there)
  · rintro ⟨fine, moved⟩ other attempt there
    dsimp only at there
    rw [Table.get?_set] at there
    split at there
    · cases there
      exact moved
    · exact fine other attempt there

theorem racing_of_run
    (race : Race raw start)
    (follows : Follows step Faultless start labels)
    (ran : run step start labels = some state) :
    Racing raw start state :=
  invariant_of_run (fun _ _ _ => racing_step) (racing_start race) follows ran

/-- A request that has not answered can take a step that does not fail. -/
theorem exists_faultless_step
    (racing : Racing raw start state)
    (incomplete : ¬ state.Complete) :
    ∃ label next, Faultless state label ∧ step state label = some next := by
  unfold Uploads.Complete at incomplete
  push Not at incomplete
  obtain ⟨id, ⟨request, stage⟩, found, pending⟩ := incomplete
  have mine := racing.each id _ found
  have enabled : ∀ action,
      Faultless state (id, action) →
      (advance state.directory state.files ⟨request, stage⟩ action).isSome = true →
      ∃ label next, Faultless state label ∧ step state label = some next := by
    intro action faultless possible
    obtain ⟨moved, advanced⟩ := Option.isSome_iff_exists.mp possible
    exact ⟨(id, action), _, faultless, by simp [step, found, advanced]; rfl⟩
  cases stage with
  | received => exact enabled .receive trivial (by simp [advance])
  | accepted file => exact enabled (.mkdirAll none) rfl rfl
  | probing file k =>
      refine enabled (.stat false) rfl ?_
      simp only [advance]
      split
      · rfl
      · split <;> rfl
  | chosen file k =>
      by_cases free : state.files.get? (file.path state.directory k) = none
      · exact enabled (.openFile none) trivial (by simp [advance, free])
      · refine enabled (.openFile (some "file exists")) ?_ rfl
        have there := Option.isSome_iff_ne_none.mpr free
        simpa [Faultless, Uploads.taken, found] using there
  | copying file k written =>
      have fits : written ≤ file.content.length := mine.2
      by_cases whole : written = file.content.length
      · exact enabled .copied trivial (by simp [advance, whole])
      · refine enabled (.write 1) trivial ?_
        have more : written + 1 ≤ file.content.length := by omega
        simp [advance, more]
  | removing file k written failure => exact mine.2.elim
  | answered response => exact absurd rfl (pending response)

/-- A race that is over has only successes if no answer is an error. -/
theorem allOk_iff_allFine
    (racing : Racing raw start state)
    (complete : state.Complete) :
    state.AllOk ↔ state.AllFine := by
  constructor
  · rintro ⟨success, -⟩ id upload found response answered
    obtain ⟨stored, same⟩ := success id upload found
    rw [same] at answered
    cases answered
    exact ⟨stored, rfl⟩
  · intro fine
    refine ⟨fun id upload found => ?_, ?_⟩
    · obtain ⟨response, answered⟩ := complete id upload found
      obtain ⟨stored, rfl⟩ := fine id upload found response answered
      exact ⟨stored, answered⟩
    · intro id other upload attempt stored another found success there again
        different same
      have left : state.Owns id stored.path :=
        ⟨upload, found, by simp [success, Stage.path?]⟩
      have right : state.Owns other another.path :=
        ⟨attempt, there, by simp [again, Stage.path?]⟩
      exact different (racing.owned.distinct id other stored.path left
        (same ▸ right))

/-- A race comes to its end in every order of the steps, and then all requests
have succeeded exactly if every candidate was still free when it was created. -/
theorem allOk_iff_clear (race : Race raw start) :
    (∃ bound, ∀ labels state, run step start labels = some state →
      labels.length ≤ bound) ∧
    (∀ labels state, run step start labels = some state →
      Follows step Faultless start labels → ¬ state.Complete →
      ∃ label next, Faultless state label ∧ step state label = some next) ∧
    ∀ labels final, run step start labels = some final →
      Follows step Faultless start labels → final.Complete →
      (final.AllOk ↔ Follows step (Clear raw) start labels) := by
  refine ⟨⟨start.uploads.total Attempt.work, ?_⟩, ?_, ?_⟩
  · intro labels state ran
    have bounded := length_le_of_run ran
    omega
  · intro labels state ran follows
    exact exists_faultless_step (racing_of_run race follows ran)
  · intro labels final ran follows complete
    have begins : start.AllFine := by
      intro id upload found
      rw [race.fresh id upload found]
      exact Stage.fine_of_ne nofun
    rw [allOk_iff_allFine (racing_of_run race follows ran) complete,
      Follows.iff_of_conditional_run (fun _ _ _ => racing_step)
        (fun _ _ _ racing faultless stepped =>
          allFine_step_iff race racing faultless stepped)
        (racing_start race) follows ran]
    exact and_iff_right begins

/-- Two requests for one name. -/
def twoRacers : Uploads :=
  { directory := ascii "/up"
    files := Table.empty
    uploads :=
      (Table.empty.set 0
        ⟨⟨.ok true, .parsed (some ⟨ascii "a", [1]⟩)⟩, .received⟩).set 1
        ⟨⟨.ok true, .parsed (some ⟨ascii "a", [2]⟩)⟩, .received⟩ }

theorem race_twoRacers : Race (ascii "a") twoRacers where
  fresh := by
    intro id upload found
    simp only [twoRacers, Table.get?_set, Table.get?_empty] at found
    split at found
    · cases found
      rfl
    · split at found
      · cases found
        rfl
      · cases found
  requests := by
    intro id upload found
    simp only [twoRacers, Table.get?_set, Table.get?_empty] at found
    split at found
    · cases found
      exact ⟨_, rfl⟩
    · split at found
      · cases found
        exact ⟨_, rfl⟩
      · cases found
  empty _ _ := rfl
  few := by decide

theorem allOk_iff_clear_twoRacers :
    (∃ bound, ∀ labels state, run step twoRacers labels = some state →
      labels.length ≤ bound) ∧
    (∀ labels state, run step twoRacers labels = some state →
      Follows step Faultless twoRacers labels → ¬ state.Complete →
      ∃ label next, Faultless state label ∧ step state label = some next) ∧
    ∀ labels final, run step twoRacers labels = some final →
      Follows step Faultless twoRacers labels → final.Complete →
      (final.AllOk ↔ Follows step (Clear (ascii "a")) twoRacers labels) :=
  allOk_iff_clear race_twoRacers

/-- Both requests find the name free before either of them creates it. -/
def lostRace : List (Nat × Action) :=
  [(0, .receive), (1, .receive), (0, .mkdirAll none), (1, .mkdirAll none),
    (0, .stat false), (1, .stat false), (0, .openFile none),
    (1, .openFile (some "open /up/a: file exists")), (0, .write 1),
    (0, .copied)]

/-- The answer of a request. -/
def Uploads.answer? (state : Uploads) (id : Nat) : Option (Response Stored) :=
  match state.uploads.get? id with
  | some ⟨_, .answered response⟩ => some response
  | _ => none

theorem complete_of_keys
    (answers : ∀ id ∈ state.uploads.keys, (state.answer? id).isSome = true) :
    state.Complete := by
  intro id upload found
  have answered := answers id (by rw [Table.mem_keys_iff, found]; rfl)
  obtain ⟨request, stage⟩ := upload
  cases stage with
  | answered response => exact ⟨response, rfl⟩
  | _ => simp [Uploads.answer?, found] at answered

/-- The request that creates its file later answers with an error. -/
theorem not_allOk_of_lostRace :
    ∃ final, Race (ascii "a") twoRacers ∧
      run step twoRacers lostRace = some final ∧
      Follows step Faultless twoRacers lostRace ∧ final.Complete ∧
      ¬ final.AllOk := by
  have outcome :
      (run step twoRacers lostRace).any (fun final =>
        final.uploads.keys.all (fun id => (final.answer? id).isSome) &&
          final.answer? 1 ==
            some (writeError 500 "create file: open /up/a: file exists")) =
        true := by decide
  cases ran : run step twoRacers lostRace with
  | none =>
      rw [ran] at outcome
      cases outcome
  | some final =>
      rw [ran] at outcome
      simp only [Option.any_some, Bool.and_eq_true, List.all_eq_true,
        beq_iff_eq] at outcome
      obtain ⟨answers, refused⟩ := outcome
      refine ⟨final, race_twoRacers, rfl, by decide, complete_of_keys answers, ?_⟩
      rintro ⟨success, -⟩
      unfold Uploads.answer? at refused
      split at refused
      · rename_i request response found
        obtain ⟨stored, same⟩ := success 1 _ found
        cases same
        cases refused
      · cases refused

end Upload
end LociTerm
