import TypedClient.Files.Disk
import TypedClient.Publication.Manifest

set_option autoImplicit false

/-!
# Staging

The files of a batch are first all written beside their goals and only then moved onto them, one after the
other. When the system refuses to write one, all that were written are taken back; when it refuses to move
one, those that are not moved yet are. A path that the system is not even asked for leaves what was written.
-/

namespace TypedClient.Publication

open Files

structure Staged where
  file : Artifact
  goal : List Text
  temporary : List Text
  deriving DecidableEq, Repr

def temporaryFor (d : Disk) (goal : List Text) : List Text :=
  let directory := goal.dropLast.foldl Path.follow []
  directory ++ [d.freshName directory (goal.getLast?.getD "")]

def stage (d : Disk) (goal : List Text) (content : Text) : Disk × Except Fault (List Text) :=
  match d.makeDirectories goal.dropLast with
  | (d, some f) => (d, .error f)
  | (d, none) =>
    let temporary := temporaryFor d goal
    match d.create temporary with
    | .error r => (d, .error ⟨r, some (Path.absolute temporary), none⟩)
    | .ok d => match content.encodingFault? with
      | some f => (d, .error ⟨.unencodable f, none, none⟩)
      | none => match d.write temporary content.toUTF8 with
        | .error r => (d.erase temporary, .error ⟨r, none, none⟩)
        | .ok d => (d, .ok temporary)

def discard (d : Disk) (staged : List Staged) : Disk := staged.foldl (fun d s => d.erase s.temporary) d

def stageAll (d : Disk) (directory : List Text) (done : List Staged) :
    List Artifact → Disk × Except Fault (List Staged)
  | [] => (d, .ok done)
  | file :: rest =>
    let goal := Path.under directory file.path
    match stage d goal file.content with
    | (d, .error f) => (if f.reason.isSystems then discard d done else d, .error f)
    | (d, .ok temporary) => stageAll d directory (done ++ [⟨file, goal, temporary⟩]) rest

def settle (d : Disk) (temporary goal : List Text) : Except Fault Disk :=
  match d.move temporary goal with
  | .error r => .error ⟨r, some (Path.absolute temporary), some (Path.absolute goal)⟩
  | .ok d => .ok d

def settleAll (d : Disk) (records : List FileRecord) :
    List Staged → Disk × List FileRecord × Option Fault
  | [] => (d, records, none)
  | s :: rest =>
    match settle d s.temporary s.goal with
    | .error f => (discard d (s :: rest), records, some f)
    | .ok d => settleAll d (records ++ [.ofArtifact s.file s.goal]) rest

/-- Put files below a directory: all are staged before the first is moved. -/
def placeAll (d : Disk) (directory : List Text) (records : List FileRecord) (files : List Artifact) :
    Disk × List FileRecord × Option Fault :=
  match stageAll d directory [] files with
  | (d, .error f) => (d, records, some f)
  | (d, .ok staged) => settleAll d records staged

end TypedClient.Publication
