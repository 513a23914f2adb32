import TypedClient.Digest.Sha256
import TypedClient.Reading.Change
import TypedClient.Reading.Whole
import TypedClient.Schema.Write
import TypedClient.Text.Lines
import TypedClient.Text.Utf8

set_option autoImplicit false

namespace TypedClient

open Reading

structure Artifact where
  path : String
  content : Text
  deriving DecidableEq, Repr, Inhabited

namespace Artifact

def lines (a : Artifact) : Nat := Text.lineCount a.content

def bytes (a : Artifact) : Nat := a.content.toUTF8.size

def checksum (a : Artifact) : String := Digest.sha256 a.content.toUTF8

def sort : String := "GeneratedFile"

def read : Data → Reading Artifact :=
  closedObject sort ["path", "content"] fun entries =>
    Artifact.mk <$> required (.plain "path") nonEmptyText entries
      <*> required (.plain "content") text entries

def assign (a : Artifact) (field : String) (d : Data) : Artifact × Option Refusal :=
  match field with
  | "path" => ((fun v => { a with path := v }) <$> nonEmptyText d).assigned field a
  | "content" => ((fun v => { a with content := v }) <$> text d).assigned field a
  | "line_count" | "size_bytes" | "checksum" => (a, some (.computed sort field))
  | _ => noField sort field a

def toJson (a : Artifact) : Json :=
  .obj [("path", .str a.path), ("content", .str a.content), ("line_count", .int a.lines),
    ("size_bytes", .int a.bytes), ("checksum", .str a.checksum)]

end Artifact

structure Batch where
  files : List Artifact := []
  entityCount : Nat := 0
  deriving DecidableEq, Repr, Inhabited

namespace Batch

def total (b : Batch) (measure : Artifact → Nat) : Nat := b.files.foldr (fun f n => measure f + n) 0

def totalLines (b : Batch) : Nat := b.total (·.lines)

def encodingFault? (b : Batch) : Option Text.EncodingFault := b.files.findSome? (·.content.encodingFault?)

/-- The bytes of all documents together, unless one has no encoding. -/
def totalBytes (b : Batch) : Except Text.EncodingFault Nat :=
  match b.encodingFault? with
  | some fault => .error fault
  | none => .ok (b.total (·.bytes))

/-- Add a document at the end; its path may not be empty and needs an encoding. -/
def add (b : Batch) (path content : Text) : Batch × Option (List Issue) :=
  match within (.key "path") (nonEmptyText (.scalar (.text path))) with
  | .ok path => ({ b with files := b.files ++ [⟨path, content⟩] }, none)
  | .bad issues => (b, some issues)

def get? (b : Batch) (path : Text) : Option Text :=
  (b.files.find? fun f => (f.path : Text) == path).map (·.content)

/-- Put a document into a list: a path that is there keeps its place and gets the new content. -/
def putFile (files : List Artifact) (file : Artifact) : List Artifact :=
  if files.any (·.path == file.path) then
    files.map fun f => if f.path == file.path then file else f
  else files ++ [file]

def merged (b : Batch) : List Artifact := b.files.foldl putFile []

def sort : String := "GenerationResult"

def read : Data → Reading Batch :=
  closedObject sort ["files", "entity_count", "started_at", "finished_at"] fun entries =>
    Batch.mk <$> optional (.plain "files") [] (list Artifact.read) entries
      <*> optional (.plain "entity_count") 0 count entries

def assign (b : Batch) (field : String) (d : Data) : Batch × Option Refusal :=
  match field with
  | "files" => ((fun v => { b with files := v }) <$> list Artifact.read d).assigned field b
  | "entity_count" => ((fun v => { b with entityCount := v }) <$> count d).assigned field b
  | "total_lines" | "total_bytes" => (b, some (.computed sort field))
  | _ => noField sort field b

def toJson (b : Batch) : Json :=
  .obj [("files", .arr (b.files.map (·.toJson))), ("entity_count", .int b.entityCount),
    ("total_lines", .int b.totalLines), ("total_bytes", .int (b.total (·.bytes)))]

def summary (b : Batch) : String :=
  "<GenerationResult " ++ toString b.files.length ++ " files, " ++ toString b.totalLines ++ " lines, "
    ++ toString b.entityCount ++ " entities>"

end Batch

end TypedClient
