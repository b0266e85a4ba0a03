import LociTerm.Api.UploadNames
import LociTerm.Client.Api
import LociTerm.Library.Run
import LociTerm.Library.Table

/-!
# Concurrent uploads

The upload handler as a step relation: any number of requests take their steps
in any order, and a step is one access to the disk or one answer.  The outcome
of an access that may fail is part of the label, so that a run covers every
pattern of failures.  An exclusive create is one step, and the removal of the
file that the request has created succeeds.
-/

namespace LociTerm
namespace Upload

open Filepath Client

/-- What a name in the file system leads to. -/
inductive Entry
  /-- A regular file. -/
  | file (bytes : Bytes)
  /-- A directory, a link or a device; `os.Stat` does not find what a link
  leads to when that is missing. -/
  | other (found : Bool)
  deriving DecidableEq

/-- A file of a multipart form. -/
structure File where
  name : Bytes
  content : Bytes
  deriving DecidableEq

/-- What `ParseMultipartForm` and `FormFile` make of the body. -/
inductive Form
  | tooLarge
  | malformed (message : String)
  | parsed (file : Option File)
  deriving DecidableEq

/-- A request of an upload, with what the store answers about its session. -/
structure Request where
  session : Except String Bool
  form : Form

/-- The body of a successful answer. -/
structure Stored where
  path : Bytes
  name : Bytes
  deriving DecidableEq

/-- Why `io.Copy` has failed. -/
inductive CopyFailure
  | tooLarge
  | other (message : String)
  deriving DecidableEq

/-- How far a request has come. -/
inductive Stage
  | received
  /-- The name is safe, and the directory is made next. -/
  | accepted (file : File)
  /-- Whether the `k`th candidate is missing is asked next. -/
  | probing (file : File) (k : Nat)
  /-- The `k`th candidate was missing, and is created next. -/
  | chosen (file : File) (k : Nat)
  /-- The file is created, and so many bytes are written. -/
  | copying (file : File) (k written : Nat)
  /-- The copy has failed, and the file is removed next. -/
  | removing (file : File) (k written : Nat) (failure : CopyFailure)
  | answered (response : Response Stored)
  deriving DecidableEq

/-- A request and how far it has come. -/
structure Attempt where
  request : Request
  stage : Stage

/-- The steps of a request.  An access that fails carries its message. -/
inductive Action
  | receive
  | mkdirAll (failure : Option String)
  | stat (fails : Bool)
  | openFile (failure : Option String)
  | write (count : Nat)
  | copied
  | copyFails (failure : CopyFailure)
  | remove
  deriving DecidableEq

/-- The upload directory, the file system and the requests. -/
structure Uploads where
  directory : Bytes
  files : Table Bytes Entry
  uploads : Table Nat Attempt

/-- The path of the `k`th candidate for a file. -/
def File.path (file : File) (directory : Bytes) (k : Nat) : Bytes :=
  join directory (candidate file.name k)

/-- `errors.Is(err, os.ErrNotExist)` for the error of `os.Stat` -/
def missing (files : Table Bytes Entry) (path : Bytes) : Bool :=
  match files.get? path with
  | none => true
  | some (.file _) => false
  | some (.other found) => !found

/-- `Upload` up to the first access to the disk. -/
def receive (request : Request) : Stage :=
  match request.session with
  | .error message => .answered (writeError 500 message)
  | .ok false => .answered (writeError 404 "session not found")
  | .ok true =>
      match request.form with
      | .tooLarge => .answered (writeError 413 "file exceeds maximum size")
      | .malformed message =>
          .answered (writeError 400 ("invalid multipart form: " ++ message))
      | .parsed none => .answered (writeError 400 "missing 'file' field")
      | .parsed (some file) =>
          let safeName := sanitizeUploadFilename file.name
          if safeName = [] then .answered (writeError 400 "invalid filename")
          else .accepted ⟨safeName, file.content⟩

/-- The answer after the file of a failed copy is removed. -/
def copyFailed : CopyFailure → Response Stored
  | .tooLarge => writeError 413 "file exceeds maximum size"
  | .other message => writeError 500 ("write file: " ++ message)

/-- One step of `Upload`: the file system and the stage after it. -/
def advance
    (directory : Bytes)
    (files : Table Bytes Entry)
    (upload : Attempt) : Action → Option (Table Bytes Entry × Stage)
  | .receive =>
      if upload.stage = .received then some (files, receive upload.request)
      else none
  | .mkdirAll failure =>
      match upload.stage, failure with
      | .accepted file, none => some (files, .probing file 0)
      | .accepted _, some message =>
          some (files, .answered (writeError 500 ("create upload dir: " ++ message)))
      | _, _ => none
  | .stat fails =>
      match upload.stage with
      | .probing file k =>
          if !fails && missing files (file.path directory k) then
            some (files, .chosen file k)
          else if k + 1 < 10000 then some (files, .probing file (k + 1))
          else
            some (files, .answered
              (writeError 500 "could not find unique upload filename"))
      | _ => none
  | .openFile failure =>
      match upload.stage, failure with
      | .chosen file k, none =>
          -- `O_EXCL`: the path must not exist.
          if files.get? (file.path directory k) = none then
            some (files.set (file.path directory k) (.file []), .copying file k 0)
          else none
      | .chosen _ _, some message =>
          some (files, .answered (writeError 500 ("create file: " ++ message)))
      | _, _ => none
  | .write count =>
      match upload.stage with
      | .copying file k written =>
          if 0 < count ∧ written + count ≤ file.content.length then
            some
              (files.set (file.path directory k)
                (.file (file.content.take (written + count))),
                .copying file k (written + count))
          else none
      | _ => none
  | .copied =>
      match upload.stage with
      | .copying file k written =>
          if written = file.content.length then
            some (files, .answered (writeJSON 200
              ⟨file.path directory k, candidate file.name k⟩))
          else none
      | _ => none
  | .copyFails failure =>
      match upload.stage with
      | .copying file k written => some (files, .removing file k written failure)
      | _ => none
  | .remove =>
      match upload.stage with
      | .removing file k _ failure =>
          some (files.erase (file.path directory k), .answered (copyFailed failure))
      | _ => none

/-- One step of one of the requests. -/
def step (state : Uploads) (label : Nat × Action) : Option Uploads :=
  (state.uploads.get? label.1).bind fun upload =>
    (advance state.directory state.files upload label.2).map fun moved =>
      { state with
        files := moved.1
        uploads := state.uploads.set label.1 { upload with stage := moved.2 } }

/-- Requests that have arrived and done nothing yet. -/
def Uploads.Fresh (state : Uploads) : Prop :=
  ∀ id upload, state.uploads.get? id = some upload → upload.stage = .received

/-- The path of the file that a request has created, as long as it is not
removed. -/
def Stage.path? (directory : Bytes) : Stage → Option Bytes
  | .copying file k _ | .removing file k _ _ => some (file.path directory k)
  | .answered response =>
      match response.body with
      | .ok stored => some stored.path
      | .error _ => none
  | _ => none

/-! ## The moves of a request -/

/-- What the steps of a request do to the files and to its stage. -/
inductive Moves
    (directory : Bytes)
    (files : Table Bytes Entry)
    (request : Request) :
    Stage → Action → Table Bytes Entry → Stage → Prop
  | receive : Moves directory files request .received .receive files
      (receive request)
  | mkdirAll (file : File) :
      Moves directory files request (.accepted file) (.mkdirAll none) files
        (.probing file 0)
  | mkdirAllFails (file : File) (message : String) :
      Moves directory files request (.accepted file) (.mkdirAll (some message))
        files (.answered (writeError 500 ("create upload dir: " ++ message)))
  | statMissing
      (file : File)
      (k : Nat)
      (absent : missing files (file.path directory k) = true) :
      Moves directory files request (.probing file k) (.stat false) files
        (.chosen file k)
  | statTaken
      (file : File)
      (k : Nat)
      (fails : Bool)
      (taken : fails = true ∨ missing files (file.path directory k) = false)
      (more : k + 1 < 10000) :
      Moves directory files request (.probing file k) (.stat fails) files
        (.probing file (k + 1))
  | statLast
      (file : File)
      (k : Nat)
      (fails : Bool)
      (taken : fails = true ∨ missing files (file.path directory k) = false)
      (last : ¬ k + 1 < 10000) :
      Moves directory files request (.probing file k) (.stat fails) files
        (.answered (writeError 500 "could not find unique upload filename"))
  | openFile
      (file : File)
      (k : Nat)
      (free : files.get? (file.path directory k) = none) :
      Moves directory files request (.chosen file k) (.openFile none)
        (files.set (file.path directory k) (.file [])) (.copying file k 0)
  | openFileFails (file : File) (k : Nat) (message : String) :
      Moves directory files request (.chosen file k) (.openFile (some message))
        files (.answered (writeError 500 ("create file: " ++ message)))
  | write
      (file : File)
      (k written count : Nat)
      (positive : 0 < count)
      (fits : written + count ≤ file.content.length) :
      Moves directory files request (.copying file k written) (.write count)
        (files.set (file.path directory k)
          (.file (file.content.take (written + count))))
        (.copying file k (written + count))
  | copied (file : File) (k written : Nat) (whole : written = file.content.length) :
      Moves directory files request (.copying file k written) .copied files
        (.answered (writeJSON 200
          ⟨file.path directory k, candidate file.name k⟩))
  | copyFails (file : File) (k written : Nat) (failure : CopyFailure) :
      Moves directory files request (.copying file k written)
        (.copyFails failure) files (.removing file k written failure)
  | remove (file : File) (k written : Nat) (failure : CopyFailure) :
      Moves directory files request (.removing file k written failure) .remove
        (files.erase (file.path directory k)) (.answered (copyFailed failure))

theorem moves_of_advance
    {directory : Bytes}
    {files others : Table Bytes Entry}
    {request : Request}
    {stage next : Stage}
    {action : Action}
    (advanced :
      advance directory files ⟨request, stage⟩ action = some (others, next)) :
    Moves directory files request stage action others next := by
  cases action with
  | receive =>
      obtain ⟨rfl, ⟨⟩⟩ := Option.ite_none_right_eq_some.mp advanced
      exact .receive
  | mkdirAll failure =>
      simp only [advance] at advanced
      split at advanced <;> cases advanced
      · exact .mkdirAll _
      · exact .mkdirAllFails _ _
  | stat fails =>
      simp only [advance] at advanced
      split at advanced
      · rename_i file k
        split at advanced
        · rename_i there
          simp only [Bool.and_eq_true, Bool.not_eq_true'] at there
          obtain ⟨rfl, absent⟩ := there
          cases advanced
          exact .statMissing _ _ absent
        · rename_i there
          have taken :
              fails = true ∨ missing files (file.path directory k) = false := by
            cases fails <;> simp_all
          split at advanced <;> cases advanced
          · exact .statTaken _ _ _ taken ‹_›
          · exact .statLast _ _ _ taken ‹_›
      · cases advanced
  | openFile failure =>
      simp only [advance] at advanced
      split at advanced
      · obtain ⟨free, same⟩ := Option.ite_none_right_eq_some.mp advanced
        obtain ⟨rfl, rfl⟩ := Prod.mk.inj (Option.some.inj same)
        exact .openFile _ _ free
      · cases advanced
        exact .openFileFails _ _ _
      · cases advanced
  | write count =>
      simp only [advance] at advanced
      split at advanced
      · obtain ⟨⟨positive, fits⟩, same⟩ :=
          Option.ite_none_right_eq_some.mp advanced
        obtain ⟨rfl, rfl⟩ := Prod.mk.inj (Option.some.inj same)
        exact .write _ _ _ _ positive fits
      · cases advanced
  | copied =>
      simp only [advance] at advanced
      split at advanced
      · obtain ⟨whole, ⟨⟩⟩ := Option.ite_none_right_eq_some.mp advanced
        exact .copied _ _ _ whole
      · cases advanced
  | copyFails failure =>
      simp only [advance] at advanced
      split at advanced <;> cases advanced
      exact .copyFails _ _ _ _
  | remove =>
      simp only [advance] at advanced
      split at advanced
      · obtain ⟨rfl, rfl⟩ := Prod.mk.inj (Option.some.inj advanced)
        exact .remove _ _ _ _
      · cases advanced

/-! ## The probes of one request -/

/-- A request takes its steps while the files stay as they are. -/
def alone
    (directory : Bytes)
    (files : Table Bytes Entry)
    (request : Request)
    (stage : Stage)
    (action : Action) : Option Stage :=
  (advance directory files ⟨request, stage⟩ action).map Prod.snd

/-- The stage that follows from a search for a free candidate. -/
def Searched
    (directory : Bytes)
    (file : File) : Except String (Bytes × Bytes) → Stage → Prop
  | .ok (path, chosen), stage =>
      ∃ k, stage = .chosen file k ∧ path = file.path directory k ∧
        chosen = candidate file.name k
  | .error message, stage => stage = .answered (writeError 500 message)

theorem probes_from
    (directory : Bytes)
    (files : Table Bytes Entry)
    (request : Request)
    (file : File)
    {k left : Nat}
    (all : k + left + 1 = 10000) :
    ∃ count stage,
      run (alone directory files request) (.probing file k)
          (List.replicate count (.stat false)) = some stage ∧
        Searched directory file
          (match ((List.range' k (left + 1)).map (candidate file.name)).find?
              (fun alt => missing files (join directory alt)) with
          | some alt => .ok (join directory alt, alt)
          | none => .error "could not find unique upload filename")
          stage := by
  induction left generalizing k with
  | zero =>
      rw [List.range'_succ, List.map_cons, List.find?_cons]
      cases free : missing files (join directory (candidate file.name k)) with
      | true =>
          refine ⟨1, .chosen file k, ?_, k, rfl, rfl, rfl⟩
          simp [run, alone, advance, File.path, free]
      | false =>
          refine ⟨1, .answered (writeError 500
            "could not find unique upload filename"), ?_, rfl⟩
          have last : ¬ k + 1 < 10000 := by omega
          simp [run, alone, advance, File.path, free, last]
  | succ left inductionHypothesis =>
      rw [List.range'_succ, List.map_cons, List.find?_cons]
      cases free : missing files (join directory (candidate file.name k)) with
      | true =>
          refine ⟨1, .chosen file k, ?_, k, rfl, rfl, rfl⟩
          simp [run, alone, advance, File.path, free]
      | false =>
          obtain ⟨count, stage, ran, found⟩ := inductionHypothesis (k := k + 1) (by omega)
          have more : k + 1 < 10000 := by omega
          refine ⟨count + 1, stage, ?_, found⟩
          rw [List.replicate_succ, run_cons_eq_some]
          exact ⟨.probing file (k + 1),
            by simp [alone, advance, File.path, free, more], ran⟩

/-- As long as the files stay as they are, the probes of a request end as
`uniqueUploadPath` does. -/
theorem probes_eq_uniqueUploadPath
    (directory : Bytes)
    (files : Table Bytes Entry)
    (request : Request)
    (file : File) :
    ∃ count stage,
      run (alone directory files request) (.probing file 0)
          (List.replicate count (.stat false)) = some stage ∧
        Searched directory file
          (uniqueUploadPath (missing files) directory file.name) stage := by
  rw [uniqueUploadPath_eq_find?, candidates, List.range_eq_range']
  exact probes_from directory files request file (by omega)

end Upload
end LociTerm
