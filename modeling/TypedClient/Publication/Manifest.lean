import TypedClient.Artifact
import TypedClient.Files.Path
import TypedClient.Json.Printer
import TypedClient.Settings

set_option autoImplicit false

namespace TypedClient

def programVersion : String := "1.0.0"

structure FileRecord where
  relativePath : String
  absolutePath : Text
  bytes : Nat
  lines : Nat
  digest : String
  deriving DecidableEq, Repr

namespace FileRecord

def ofArtifact (file : Artifact) (goal : List Text) : FileRecord :=
  ⟨file.path, Path.absolute goal, file.bytes, file.lines, file.checksum⟩

def toJson (r : FileRecord) : Json :=
  .obj [("relative_path", .str r.relativePath), ("absolute_path", .str r.absolutePath),
    ("size_bytes", .int r.bytes), ("line_count", .int r.lines), ("sha256", .str r.digest)]

end FileRecord

structure Manifest where
  clientName : String
  clientVersion : Text
  engineVersion : Text
  stamp : String
  directory : Text
  files : List FileRecord
  deriving DecidableEq, Repr

namespace Manifest

def total (m : Manifest) (measure : FileRecord → Nat) : Nat := m.files.foldr (fun f n => measure f + n) 0

def totalBytes (m : Manifest) : Nat := m.total (·.bytes)

def totalLines (m : Manifest) : Nat := m.total (·.lines)

def fileName : String := "manifest.json"

def toJson (m : Manifest) : Json :=
  .obj [("client_name", .str m.clientName), ("client_version", .str m.clientVersion),
    ("engine_version", .str m.engineVersion), ("generator_version", .str programVersion),
    ("export_timestamp", .str m.stamp), ("output_directory", .str m.directory),
    ("total_files", .int m.files.length), ("total_bytes", .int m.totalBytes),
    ("total_lines", .int m.totalLines), ("files", .arr (m.files.map (·.toJson)))]

def text (step : Nat) (m : Manifest) : Text := m.toJson.indented .full step 0

end Manifest

end TypedClient
