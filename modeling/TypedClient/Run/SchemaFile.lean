import TypedClient.Files.Disk
import TypedClient.Json.Parser
import TypedClient.Run.Log
import TypedClient.Text.Utf8
import TypedClient.Yaml.Value

set_option autoImplicit false

namespace TypedClient

open Files

inductive FileFault where
  | absent (path : Text)
  | notFile (path : Text)
  | refused (fault : Fault)
  | undecodable (fault : Text.Utf8Fault)
  | json (path text : Text) (fault : Json.Fault)
  | jsonTop (kind : String)
  | yaml (path : Text) (fault : Yaml.Fault)
  | yamlTop (kind : String)

namespace FileFault

def message : FileFault → Text
  | absent path => "Schema file not found: " ++ path
  | notFile path => "Schema path is not a file: " ++ path
  | refused f => f.message
  | undecodable f => f.message
  | json path text f => match f.cause with
    | .digits _ | .depth _ => f.cause.message
    | _ => "Invalid JSON in " ++ path ++ ": " ++ f.message text
  | jsonTop kind => "Expected a JSON object at top level, got " ++ kind ++ "."
  | yaml path f => match f with
    | .malformed => "Invalid YAML in " ++ path ++ ": " ++ f.message
    | _ => f.message
  | yamlTop kind => "Expected a YAML mapping at top level, got " ++ kind ++ "."

def isReportable : FileFault → Bool
  | refused _ => false
  | json _ _ f => !(f.cause matches .depth _)
  | yaml _ f => f.isValueFault
  | _ => true

end FileFault

namespace SchemaFile

abbrev Entries := List (Scalar × Data)

def textOf (content : ByteArray) : Except FileFault String :=
  match Text.ofUtf8 content with
  | .ok s => .ok (String.ofList (Text.unifyLineEnds s.toList))
  | .error f => .error (.undecodable f)

def ofJson (path : Text) (content : ByteArray) : Except FileFault Entries :=
  match textOf content with
  | .error f => .error f
  | .ok text => match Json.parse text with
    | .error f => .error (.json path text f)
    | .ok (.map entries) => .ok entries
    | .ok d => .error (.jsonTop d.kindName)

def ofYaml (path : Text) (content : ByteArray) : Except FileFault Entries :=
  match textOf content with
  | .error f => .error f
  | .ok text => match Yaml.parse text.toList with
    | .error f => .error (.yaml path f)
    | .ok (.map entries) => .ok entries
    | .ok d => .error (.yamlTop d.kindName)

def ofContent (path : Text) (content : ByteArray) : Except FileFault Entries × List Remark :=
  let extension := Path.extension (Path.lastName path)
  if extension == ".yaml" || extension == ".yml" then (ofYaml path content, [])
  else if extension == ".json" then (ofJson path content, [])
  else
    let remark : Remark :=
      ⟨.info, .generator, "Unknown extension '" ++ extension ++ "', trying JSON then YAML."⟩
    match ofJson path content with
    | .ok entries => (.ok entries, [remark])
    | .error _ => (ofYaml path content, [remark])

/-- What a path leads to, if anything. Only a path or a name that is too long is a fault. -/
def lookAt (d : Disk) (current : List Text) (path : Text) : Except Fault (Option Entry) :=
  let tooLong : Except Fault (Option Entry) := .error ⟨.longName, some (Path.plain path), none⟩
  if path.contains (.char '\x00') || !path.isWhole then .ok none
  else if Path.isLong (Path.plain path) then tooLong
  else match d.look (Path.under current path) with
    | .ok e => .ok (some e)
    | .error .longName => tooLong
    | .error _ => .ok none

/-- The map that a schema file holds. The path is taken from the current directory. -/
def load (d : Disk) (current : List Text) (path : Text) : Except FileFault Entries × List Remark :=
  match lookAt d current path with
  | .error f => (.error (.refused f), [])
  | .ok none => (.error (.absent (Path.plain path)), [])
  | .ok (some .directory) => (.error (.notFile (Path.plain path)), [])
  | .ok (some (.file content)) => ofContent (Path.plain path) content

end SchemaFile

end TypedClient
