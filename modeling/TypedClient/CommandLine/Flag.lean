set_option autoImplicit false

namespace TypedClient.CommandLine

inductive Flag where
  | help
  | version
  | schema
  | output
  | validateOnly
  | dryRun
  | print
  | clientName
  | runtimePath
  | clientVersion
  | engineVersion
  | noJs
  | failOnWarnings
  | verbose
  | quiet
  deriving DecidableEq, Repr

namespace Flag

def all : List Flag :=
  [.help, .version, .schema, .output, .validateOnly, .dryRun, .print, .clientName, .runtimePath,
    .clientVersion, .engineVersion, .noJs, .failOnWarnings, .verbose, .quiet]

def names : Flag → List String
  | help => ["-h", "--help"]
  | version => ["--version"]
  | schema => ["-s", "--schema"]
  | output => ["-o", "--output"]
  | validateOnly => ["--validate-only"]
  | dryRun => ["--dry-run"]
  | print => ["--print"]
  | clientName => ["--client-name"]
  | runtimePath => ["--runtime-path"]
  | clientVersion => ["--client-version"]
  | engineVersion => ["--engine-version"]
  | noJs => ["--no-js"]
  | failOnWarnings => ["--fail-on-warnings"]
  | verbose => ["-v", "--verbose"]
  | quiet => ["-q", "--quiet"]

def takesValue : Flag → Bool
  | schema | output | clientName | runtimePath | clientVersion | engineVersion => true
  | _ => false

def title (f : Flag) : String := "/".intercalate f.names

def named : List (String × Flag) := all.flatMap fun f => f.names.map fun n => (n, f)

def ofName? (name : String) : Option Flag := named.lookup name

end Flag

def programName : String := "clientgen"

def usage : String :=
  "\n".intercalate
    ["usage: clientgen [-h] [--version] -s PATH [-o DIR] [--validate-only]",
      "                 [--dry-run] [--print] [--client-name NAME]",
      "                 [--runtime-path PATH] [--client-version VER]",
      "                 [--engine-version VER] [--no-js] [--fail-on-warnings] [-v]",
      "                 [-q]",
      ""]

def helpText : String :=
  usage ++ "\n".intercalate
    ["",
      "clientgen: typed data-access client generator.",
      "",
      "Turns a schema document (JSON/YAML) into a TypeScript declaration file and a data-only JavaScript "
        ++ "module.",
      "",
      "options:",
      "  -h, --help            show this help message and exit",
      "  --version             show program's version number and exit",
      "  -s PATH, --schema PATH",
      "                        Path to the schema document (JSON or YAML).",
      "  -o DIR, --output DIR  Output directory for the generated client. Required",
      "                        unless --validate-only or --dry-run is set.",
      "",
      "operation modes:",
      "  --validate-only       Only validate the schema without generating code.",
      "  --dry-run             Render both documents but don't write anything to",
      "                        disk.",
      "  --print               Print the rendered declaration document to stdout.",
      "",
      "configuration overrides:",
      "  --client-name NAME    Override the root client class name.",
      "  --runtime-path PATH   Override the import path of the client runtime.",
      "  --client-version VER  Override the stamped client version.",
      "  --engine-version VER  Override the stamped engine version.",
      "  --no-js               Skip the JavaScript document.",
      "",
      "behaviour flags:",
      "  --fail-on-warnings    Treat validation warnings as errors.",
      "",
      "verbosity:",
      "  -v, --verbose         Increase verbosity (-v for INFO, -vv for DEBUG).",
      "  -q, --quiet           Suppress all output except errors.",
      "",
      "Examples:",
      "  clientgen -s schema.json -o ./generated",
      "  clientgen -s schema.yaml --validate-only",
      "  clientgen -s schema.yaml --dry-run --print",
      ""]

end TypedClient.CommandLine
