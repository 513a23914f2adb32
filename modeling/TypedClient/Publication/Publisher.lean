import TypedClient.Publication.Staging
import TypedClient.Run.Log

set_option autoImplicit false

/-!
# Publishers

A publisher puts batches into one directory and keeps account of it: what it has put in place, what went
wrong, and what it warns about. Its account goes on from one batch to the next. What the system refuses goes
into the account; a path that the system cannot be asked for ends the publication.
-/

namespace TypedClient

open Files

structure Publisher where
  settings : Settings
  directory : List Text
  withManifest : Bool := true
  records : List FileRecord := []
  errors : List Text := []
  warnings : List Text := []

namespace Publisher

def manifest (p : Publisher) (stamp : String) : Manifest :=
  { clientName := p.settings.clientName, clientVersion := p.settings.clientVersion
    engineVersion := p.settings.engineVersion, stamp, directory := Path.absolute p.directory
    files := p.records }

def success (p : Publisher) : Bool := p.errors.isEmpty

def remark (level : Level) (text : Text) : Remark := ⟨level, .publisher, text⟩

def manifestFailed (p : Publisher) (f : Fault) : Publisher × Except Fault (List Remark) :=
  if f.reason.isSystems then
    ({ p with warnings := p.warnings ++ [↑("Could not write manifest: " ++ f.message)] },
      .ok [remark .warning ("Failed to write manifest: " ++ f.message)])
  else (p, .error f)

/-- Put the manifest beside the files. That the system does not let it be written is no error. -/
def putManifest (p : Publisher) (d : Disk) (stamp : String) :
    Publisher × Disk × Except Fault (List Remark) :=
  let goal := p.directory ++ [↑Manifest.fileName]
  let failed (d : Disk) (f : Fault) : Publisher × Disk × Except Fault (List Remark) :=
    let (p, remarks) := p.manifestFailed f
    (p, d, remarks)
  match Publication.stage d goal ((p.manifest stamp).text 2) with
  | (d, .error f) => failed d f
  | (d, .ok temporary) => match Publication.settle d temporary goal with
    | .error f => failed d f
    | .ok d => (p, d, .ok [])

def fail (p : Publisher) (f : Fault) : Publisher × Except Fault (List Remark) :=
  let text : Text := "Fatal export error: " ++ f.reason.sort ++ ": " ++ f.message
  if f.reason.isSystems then ({ p with errors := p.errors ++ [text] }, .ok [remark .error text])
  else (p, .error f)

/-- Put the files of a batch into the directory, and the manifest if it is wanted. -/
def putFiles (p : Publisher) (d : Disk) (stamp : String) (files : List Artifact) :
    Publisher × Disk × Except Fault (List Remark) :=
  match d.makeDirectories p.directory with
  | (d, some f) =>
    let (p, remarks) := p.fail f
    (p, d, remarks)
  | (d, none) => match Publication.placeAll d p.directory p.records files with
    | (d, records, some f) =>
      let (p, remarks) := { p with records }.fail f
      (p, d, remarks)
    | (d, records, none) =>
      let p := { p with records }
      let written := remark .info
        ("Wrote " ++ toString files.length ++ " generated files to " ++ Path.absolute p.directory ++ ".")
      if p.withManifest then
        let (p, d, remarks) := p.putManifest d stamp
        (p, d, remarks.map (written :: ·))
      else (p, d, .ok [written])

def closing (p : Publisher) (stamp seconds : String) : Remark :=
  if p.success then
    let m := p.manifest stamp
    remark .info ("Export completed successfully: " ++ toString m.files.length ++ " files, "
      ++ toString m.totalBytes ++ " bytes, " ++ seconds ++ "s.")
  else
    remark .error ("Export completed with " ++ toString p.errors.length ++ " error(s) in " ++ seconds
      ++ "s.")

def publish (p : Publisher) (d : Disk) (stamp seconds : String) (batch : Batch) :
    Publisher × Disk × Except Fault (List Remark) :=
  let (p, d, remarks) := p.putFiles d stamp batch.merged
  (p, d, remarks.map (· ++ [p.closing stamp seconds]))

end Publisher

end TypedClient
