import TypedClient.Check.Defect
import TypedClient.Publication.Publisher
import TypedClient.Rendition.Batch
import TypedClient.Run.Report
import TypedClient.Run.SchemaFile
import TypedClient.Run.Source

set_option autoImplicit false

/-!
# Runs of the generator

A run checks a document, makes the generated documents and, if a directory is given, publishes them there.
What fails is told in the report; nothing is written before everything has been made.
-/

namespace TypedClient

open Files

structure Clock where
  stamp : String
  time : String
  elapsed : Float := 0.0

def Clock.seconds (c : Clock) : String := Decimal.fixed 3 c.elapsed

structure Surroundings where
  clock : Clock
  current : List Text
  failOnWarnings : Bool := false

inductive Interruption where
  | file (fault : FileFault)
  | rendition (fault : RenditionFault)
  | encoding (fault : Text.EncodingFault)
  | publication (fault : Fault) (disk : Disk)

def Interruption.message : Interruption → Text
  | .file f => f.message
  | .rendition f => f.message
  | .encoding f => f.message
  | .publication f _ => f.message

def Interruption.disk (before : Disk) : Interruption → Disk
  | .publication _ disk => disk
  | _ => before

structure Outcome where
  report : Report
  batch : Option Batch := none
  manifest : Option Manifest := none
  disk : Disk

namespace Report

def step (r : Report) (at' : Surroundings) (name : String) (success : Bool) (detail : Text) : Report :=
  { r with steps := r.steps ++ [⟨name, success, at'.clock.elapsed, detail⟩] }

def isClean (r : Report) (failOnWarnings : Bool) : Bool :=
  r.failures.input.isEmpty && r.failures.validation.isEmpty && r.failures.generation.isEmpty
    && r.failures.output.isEmpty && !(failOnWarnings && !r.failures.warnings.isEmpty)

def closed (r : Report) (at' : Surroundings) : Report :=
  { r with success := r.isClean at'.failOnWarnings, elapsed := at'.clock.elapsed }

end Report

namespace Run

def remark (level : Level) (text : Text) : Remark := ⟨level, .generator, text⟩

def checkDetail (fs : Findings) : String :=
  if !fs.errors.isEmpty then toString fs.errors.length ++ " error(s)"
  else if !fs.warnings.isEmpty then toString fs.warnings.length ++ " warning(s)"
  else "all checks passed"

def checkRemarks (at' : Surroundings) (d : Document) (fs : Findings) : List Remark :=
  let seconds := " in " ++ at'.clock.seconds ++ "s."
  if !fs.errors.isEmpty then
    remark .error ("Validation failed with " ++ toString fs.errors.length ++ " error(s)" ++ seconds)
      :: fs.errors.map fun f => remark .error ("  ✗ " ++ f.line)
  else if !fs.warnings.isEmpty then
    remark .warning ("Validation passed with " ++ toString fs.warnings.length ++ " warning(s)" ++ seconds)
      :: fs.warnings.map fun f => remark .warning ("  ⚠ " ++ f.line)
  else
    [remark .info ("Validation passed: " ++ toString d.entities.length ++ " entities validated" ++ seconds)]

def withCheck (at' : Surroundings) (fs : Findings) (r : Report) : Report :=
  { r with failures :=
      { r.failures with
        validation := r.failures.validation ++ fs.errors.map Finding.line
        warnings := r.failures.warnings ++ fs.warnings.map Finding.line } }.step at' "Validate Schema" fs.isValid
    (checkDetail fs)

def passes (at' : Surroundings) (fs : Findings) : Bool :=
  fs.errors.isEmpty && !(at'.failOnWarnings && !fs.warnings.isEmpty)

def batchDetail (b : Batch) : String :=
  toString b.files.length ++ " files, ~" ++ Text.grouped b.totalLines ++ " lines"

def withBatch (at' : Surroundings) (b : Batch) (r : Report) : Report :=
  { r with measures :=
      { r.measures with files := b.files.length, lines := b.totalLines, bytes := b.total (·.bytes) } }.step at'
    "Render Documents" true (batchDetail b)

def inconsistencyText (c : Inconsistency) : Text := "SchemaInconsistencyError: " ++ c.message

def withInconsistency (at' : Surroundings) (c : Inconsistency) (r : Report) : Report :=
  { r with failures :=
      { r.failures with generation := r.failures.generation ++ [inconsistencyText c] } }.step at'
    "Render Documents" false (inconsistencyText c)

def withPublication (at' : Surroundings) (p : Publisher) (m : Manifest) (r : Report) : Report :=
  { r with
    directory := Path.absolute p.directory
    failures := { r.failures with output := r.failures.output ++ p.errors } }.step at' "Export to Filesystem"
    p.success (toString m.files.length ++ " files, " ++ Text.grouped m.totalBytes ++ " bytes")

def publish (at' : Surroundings) (s : Settings) (goal : Option (List Text)) (disk : Disk) (b : Batch)
    (r : Report) : Except Interruption Outcome × List Remark :=
  match goal with
  | none => (.ok ⟨r.closed at', some b, none, disk⟩, [])
  | some directory =>
    let p : Publisher := { settings := s, directory }
    match p.publish disk at'.clock.stamp at'.clock.seconds b with
    | (_, disk, .error f) => (.error (.publication f disk), [])
    | (p, disk, .ok remarks) =>
      let m := p.manifest at'.clock.stamp
      (.ok ⟨(withPublication at' p m r).closed at', some b, some m, disk⟩, remarks)

def render (at' : Surroundings) (d : Document) (s : Settings) (goal : Option (List Text)) (disk : Disk)
    (r : Report) : Except Interruption Outcome × List Remark :=
  match d.rendered s at'.current with
  | .error (.inconsistent c) =>
    (.ok { report := (withInconsistency at' c r).closed at', disk }, [remark .error (inconsistencyText c)])
  | .error fault => (.error (.rendition fault), [])
  | .ok b => match b.encodingFault? with
    | some fault => (.error (.encoding fault), [])
    | none =>
      let made := remark .info
        ("Rendering complete: " ++ batchDetail b ++ " in " ++ at'.clock.seconds ++ "s.")
      let (outcome, remarks) := publish at' s goal disk b (withBatch at' b r)
      (outcome, made :: remarks)

def document (at' : Surroundings) (d : Document) (s : Settings) (goal : Option (List Text))
    (disk : Disk) (r : Report) : Except Interruption Outcome × List Remark :=
  let fs := d.findings (some s)
  let r := withCheck at' fs
    { r with client := s.clientName, measures := { r.measures with entities := d.entities.length } }
  let remarks := checkRemarks at' d fs
  if passes at' fs then
    let (outcome, more) := render at' d s goal disk r
    (outcome, remarks ++ more)
  else (.ok { report := r.closed at', disk }, remarks)

/-- The settings that a schema file and an output directory add to those given from outside. -/
def placeSettings (at' : Surroundings) (path : Text) (goal : Option (List Text))
    (overrides : List (Scalar × Data)) : List (Scalar × Data) :=
  let add (name : String) (value : Text) (entries : List (Scalar × Data)) : List (Scalar × Data) :=
    if entries.any (·.1.isText name) then entries else entries ++ [(.text name, .text value)]
  let entries := add "schema_dir" (Path.absolute (Path.resolve at'.current path).dropLast) overrides
  goal.elim entries fun g => add "output_dir" (Path.absolute g) entries

def settingsRemarks (raw : List (Scalar × Data)) : List Remark :=
  if Source.hasSettings raw then []
  else [remark .info "No generator config found in input, using defaults."]

def loadStep : String := "Load Schema File"

def refuse (at' : Surroundings) (disk : Disk) (text : Text) : Outcome :=
  let r : Report := { failures := { input := [text] } }
  { report := (r.step at' loadStep false text).closed at', disk }

def file (at' : Surroundings) (path : Text) (goal : Option (List Text))
    (overrides : List (Scalar × Data)) (disk : Disk) : Except Interruption Outcome × List Remark :=
  match SchemaFile.load disk at'.current path with
  | (.error f, remarks) =>
    if f.isReportable then (.ok (refuse at' disk f.message), remarks) else (.error (.file f), remarks)
  | (.ok raw, remarks) =>
    if goal.any Path.holdsEnd then (.ok (refuse at' disk Reason.unaskable.words), remarks)
    else
      let remarks := remarks ++ settingsRemarks raw
      match Source.read raw (placeSettings at' path goal overrides) with
      | .error f => (.ok (refuse at' disk f.message), remarks)
      | .ok source =>
        let r : Report := ({} : Report).step at' loadStep true
          (toString source.document.entities.length ++ " entities from " ++ Path.lastName path)
        let (outcome, more) := document at' source.document source.settings goal disk r
        (outcome, remarks ++ more)

end Run

end TypedClient
