import TypedClient.Declaration.Enumeration
import TypedClient.Files.Path
import TypedClient.Json.Printer
import TypedClient.Rendition.Preamble
import TypedClient.Schema.Write

set_option autoImplicit false

namespace TypedClient

def runtimeFunctions : List String := ["getClient", "debugLib", "sqltag"]

def scriptHead (s : Settings) : List Passage :=
  [.ofLines [] ["Object.defineProperty(exports, \"__esModule\", \x7b value: true \x7d);"],
    .ofLines (runtimeErrors ++ runtimeFunctions)
      (["const \x7b"] ++ runtimeErrors.map (fun name => "  " ++ name ++ ",")
        ++ ["  getClient,", "  debugLib,", "  sqltag",
          "\x7d = require(" ++ Json.quote s.runtimePath ++ ")"]),
    .ofLines ["path", "debug"]
      ["const path = require('path')", "const debug = debugLib(" ++ Json.quote s.clientName ++ ")"],
    .ofLines []
      ["debug(\"Client Version \" + " ++ Json.quote s.clientVersion ++ ")",
        "debug(\"Engine Version \" + " ++ Json.quote s.engineVersion ++ ")"],
    { exported := ["clientVersion"]
      text := Text.ofLines
        ["exports.clientVersion = \x7b", "  client: " ++ Json.quote s.clientVersion ++ ",",
          "  engine: " ++ Json.quote s.engineVersion, "\x7d"] },
    { exported := runtimeErrors
      text := Text.ofLines (runtimeErrors.map fun name => "exports." ++ name ++ " = " ++ name ++ ";") },
    { exported := sqlHelpers
      text := Text.ofLines
        (["/**", " * Re-export of sql-template-tag", " */"] ++ sqlHelpers.map fun name =>
          "exports." ++ name ++ " = sqltag." ++ (if name == "sql" then "sqltag" else name)) }]

def bundlerPassages (s : Settings) : List Passage :=
  [.ofLines []
      ["/**", " * Build tool annotations",
        " * Keep the engine binaries and the schema file next to the client.", "**/"],
    .ofLines []
      ((s.platforms.map fun p => "path.join(__dirname, " ++ Json.quote ("query-engine-" ++ p) ++ ");")
        ++ ["path.join(__dirname, 'schema');"])]

def enumPrelude : Passage :=
  .ofLines ["makeEnum"] ["/**", " * Enums", " */", "function makeEnum(x) \x7b return x; \x7d"]

def Enumeration.jsPassage (e : Enumeration) : Passage := { exported := [e.name], text := e.jsText }

/-- The embedded schema and the client class. The schema is decoded twice, so that the exported object is
one of its own. -/
def bootstrapPassages (client : String) (schema config : Text) : List Passage :=
  [.ofLines ["dmmfString"] ["/**", " * DMMF", " */", "const dmmfString = " ++ Json.quote schema],
    { declares := ["dmmf"], exported := ["dmmf"]
      text := Text.ofLines
        ["const dmmf = JSON.parse(dmmfString)", "exports.dmmf = JSON.parse(dmmfString)"] },
    .ofLines [] ["/**", " * Create the Client", " */"],
    { declares := ["config"]
      text := Text.joinLines
        ["const config = " ++ config, "config.document = dmmf", "config.dirname = __dirname"] },
    { declares := [client], exported := [client]
      text := Text.ofLines
        ["const " ++ client ++ " = getClient(config)", "exports." ++ client ++ " = " ++ client, ""] }]

inductive RenditionFault where
  | inconsistent (cause : Inconsistency)
  | noPath
  deriving DecidableEq, Repr

def RenditionFault.message : RenditionFault → Text
  | .inconsistent cause => cause.message
  | .noPath => "no path specified"

/-- The relative path from the output directory to the directory of the schema. -/
def Settings.schemaPath (s : Settings) (current : List Text) : Except RenditionFault Text :=
  if s.schemaDir.isEmpty then .error .noPath
  else .ok (Path.relative current s.schemaDir s.outputDir)

def Settings.configWith (s : Settings) (schemaPath : Text) : Json :=
  .obj [("clientName", .str s.clientName), ("relativePath", .str schemaPath),
    ("internalDatasources", .arr (s.datasources.map fun name => .obj [("name", .str name)])),
    ("clientVersion", .str s.clientVersion), ("engineVersion", .str s.engineVersion)]

def Settings.clientConfig (s : Settings) (current : List Text) : Except RenditionFault Json :=
  (s.schemaPath current).map s.configWith

namespace Document

def schemaText (d : Document) : Text := Json.compact .full (d.toJson .usual)

def jsPassagesWith (d : Document) (s : Settings) (config : Json) : List Passage :=
  scriptHead s ++ bundlerPassages s ++ [enumPrelude] ++ d.enums.map (·.jsPassage)
    ++ bootstrapPassages s.clientName d.schemaText (Json.indented .ascii 2 0 config)

def jsPassages (d : Document) (s : Settings) (current : List Text) :
    Except RenditionFault (List Passage) :=
  (s.clientConfig current).map (d.jsPassagesWith s)

def jsText (d : Document) (s : Settings) (current : List Text) : Except RenditionFault Text :=
  (d.jsPassages s current).map Passage.joined

def orInconsistent {α : Type} : Except Inconsistency α → Except RenditionFault α
  | .ok a => .ok a
  | .error cause => .error (.inconsistent cause)

end Document

end TypedClient
