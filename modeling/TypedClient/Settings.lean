import TypedClient.Reading.Change
import TypedClient.Schema.Write
import TypedClient.Text.Identifier

set_option autoImplicit false

namespace TypedClient

structure Settings where
  clientName : String := "DataClient"
  runtimePath : String := "./runtime"
  clientVersion : Text := "0.0.0"
  engineVersion : Text := "unknown"
  datasources : List Text := ["db"]
  platforms : List Text := []
  /-- Whether the document with the data is made besides the one with the types. -/
  emitJs : Bool := true
  tsFilename : String := "index.d.ts"
  jsFilename : String := "index.js"
  outputDir : Text := "./generated"
  schemaDir : Text := "."
  deriving DecidableEq, Repr, Inhabited

def optionsName (client : String) : String := client ++ "Options"

def Reading.className : Data → Reading String := ruledText Text.isAsciiName .notName

namespace Settings

open Reading

def sort : String := "GeneratorConfig"

def keys : List String :=
  ["client_name", "runtime_path", "client_version", "engine_version", "datasources", "platforms",
    "emit_js", "ts_filename", "js_filename", "output_dir", "schema_dir"]

def breach? (s : Settings) : Option Breach :=
  if s.tsFilename = s.jsFilename then some (.sameFile s.tsFilename) else none

def read (d : Data) : Reading Settings :=
  let standard : Settings := {}
  guarded breach? <| closedObject sort keys
    (fun entries =>
      Settings.mk <$> optional (.plain "client_name") standard.clientName className entries
        <*> optional (.plain "runtime_path") standard.runtimePath nonEmptyText entries
        <*> optional (.plain "client_version") standard.clientVersion text entries
        <*> optional (.plain "engine_version") standard.engineVersion text entries
        <*> optional (.plain "datasources") standard.datasources (list text) entries
        <*> optional (.plain "platforms") standard.platforms (list text) entries
        <*> optional (.plain "emit_js") standard.emitJs bool entries
        <*> optional (.plain "ts_filename") standard.tsFilename nonEmptyText entries
        <*> optional (.plain "js_filename") standard.jsFilename nonEmptyText entries
        <*> optional (.plain "output_dir") standard.outputDir text entries
        <*> optional (.plain "schema_dir") standard.schemaDir text entries) d

/-- Read a new value for one field into settings, without asking for the rule of the whole. -/
def readField (s : Settings) (field : String) (d : Data) : Reading Settings :=
  match field with
  | "client_name" => (fun v => { s with clientName := v }) <$> className d
  | "runtime_path" => (fun v => { s with runtimePath := v }) <$> nonEmptyText d
  | "client_version" => (fun v => { s with clientVersion := v }) <$> text d
  | "engine_version" => (fun v => { s with engineVersion := v }) <$> text d
  | "datasources" => (fun v => { s with datasources := v }) <$> list text d
  | "platforms" => (fun v => { s with platforms := v }) <$> list text d
  | "emit_js" => (fun v => { s with emitJs := v }) <$> bool d
  | "ts_filename" => (fun v => { s with tsFilename := v }) <$> nonEmptyText d
  | "js_filename" => (fun v => { s with jsFilename := v }) <$> nonEmptyText d
  | "output_dir" => (fun v => { s with outputDir := v }) <$> text d
  | "schema_dir" => (fun v => { s with schemaDir := v }) <$> text d
  | _ => fail (.noField field)

/-- Ask the rule of the whole after a change: a change that breaks it stays. -/
def checked (r : Settings × Option Refusal) : Settings × Option Refusal :=
  match r with
  | (s, some refusal) => (s, some refusal)
  | (s, none) => (s, s.breach?.map fun breach => .issues [⟨[], .breach breach⟩])

def assign (s : Settings) (field : String) (d : Data) : Settings × Option Refusal :=
  if keys.contains field then checked ((s.readField field d).assigned field s) else noField sort field s

def toJson (s : Settings) : Json :=
  .obj [("client_name", .str s.clientName), ("runtime_path", .str s.runtimePath),
    ("client_version", .str s.clientVersion), ("engine_version", .str s.engineVersion),
    ("datasources", Json.ofTexts s.datasources), ("platforms", Json.ofTexts s.platforms),
    ("emit_js", .bool s.emitJs), ("ts_filename", .str s.tsFilename),
    ("js_filename", .str s.jsFilename), ("output_dir", .str s.outputDir),
    ("schema_dir", .str s.schemaDir)]

end Settings

end TypedClient
