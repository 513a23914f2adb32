import TypedClient.CommandLine.Options
import TypedClient.Run.Generation

set_option autoImplicit false

/-!
# Sessions

One call of the program: what it writes to both channels, how the disk is left, and the code it ends with.
The code tells the phase that failed.
-/

namespace TypedClient.CommandLine

open Files

inductive ExitCode where
  | success
  | validation
  | generation
  | output
  | input
  deriving DecidableEq, Repr

def ExitCode.number : ExitCode → Nat
  | success => 0
  | validation => 1
  | generation => 2
  | output => 3
  | input => 4

inductive Ending where
  | exit (number : Nat)
  | interrupted (cause : Interruption)
  | unread (stop : Stop)

structure Session where
  ending : Ending
  shown : Text := ""
  told : Text := ""
  disk : Disk

structure Invocation where
  clock : Clock
  current : List Text
  disk : Disk

def remark (level : Level) (text : Text) : Remark := ⟨level, .program, text⟩

def Options.verbosity (o : Options) : Verbosity :=
  if o.quiet then .errors else if o.verbose = 0 then .warnings else .all

def Options.told (o : Options) (c : Clock) (remarks : List Remark) : Text :=
  (remarks.filter fun r => o.verbosity.shows r.level).flatMap fun r => r.shown c.time ++ "\n"

def ExitCode.ofReport (r : Report) : ExitCode :=
  if r.success then .success
  else if !r.failures.input.isEmpty then .input
  else if !r.failures.validation.isEmpty || !r.failures.warnings.isEmpty then .validation
  else if !r.failures.generation.isEmpty then .generation
  else if !r.failures.output.isEmpty then .output
  else .generation

def checkReport (name : Text) (d : Document) (fs : Findings) (c : Clock) : Text :=
  let rule := String.ofList (List.replicate 50 '=')
  let listed (title sign : String) (items : List Finding) : List Text :=
    if items.isEmpty then []
    else "" :: ("  " ++ title ++ " (" ++ toString items.length ++ "):")
      :: items.map fun f => "    " ++ sign ++ " " ++ f.line
  Text.joinLines
    ((["", rule, "  Schema Validation Report", rule,
        "  File:      " ++ name,
        "  Entities:  " ++ toString d.entities.length,
        "  Time:      " ++ c.seconds ++ "s",
        "  Valid:     " ++ (if fs.isValid then "Yes" else "No")] : List Text)
      ++ listed "Errors" "✗" fs.errors ++ listed "Warnings" "⚠" fs.warnings
      ++ (if fs.isValid && fs.warnings.isEmpty then ["", "  ✅ All validations passed!"] else [] : List Text)
      ++ ([rule, "", ""] : List Text))

namespace Invocation

def ended (call : Invocation) (o : Options) (code : ExitCode) (shown : Text) (remarks : List Remark) : Session :=
  ⟨.exit code.number, shown, o.told call.clock remarks, call.disk⟩

def check (call : Invocation) (o : Options) (path : Text) : Session :=
  let start := remark .info ("Running validation-only mode for: " ++ path)
  let failed (remarks : List Remark) (text : Text) : Session :=
    call.ended o .input "" (start :: remarks ++ [remark .error ("Failed to load schema: " ++ text)])
  match SchemaFile.load call.disk call.current path with
  | (.error f, remarks) =>
    if f.isReportable then failed remarks f.message
    else ⟨.interrupted (.file f), "", o.told call.clock (start :: remarks), call.disk⟩
  | (.ok raw, remarks) =>
    let remarks := remarks ++ Run.settingsRemarks raw
    match Source.read raw o.overrides with
    | .error f => failed remarks f.message
    | .ok source =>
      let fs := source.document.findings (some source.settings)
      call.ended o (if fs.isValid then .success else .validation)
        (checkReport (Path.lastName path) source.document fs call.clock) (start :: remarks)

def shownOf (o : Options) (outcome : Outcome) : Text :=
  match o.print, outcome.batch.bind (·.files.head?) with
  | true, some file => file.content
  | _, _ => outcome.report.summary ++ "\n"

def closing (code : ExitCode) : Remark :=
  if code = .success then remark .info "Generation completed successfully."
  else remark .error ("Generation failed with exit code " ++ toString code.number ++ ".")

def generate (call : Invocation) (o : Options) (path : Text) (goal : Option (List Text)) : Session :=
  let start :=
    [remark .info ("Schema:  " ++ path),
      remark .info ("Output:  " ++ goal.elim ↑"(dry run)" Path.absolute)]
      ++ if goal.isNone then [remark .info "Dry-run mode: files will not be written to disk."] else []
  let at' : Surroundings := ⟨call.clock, call.current, o.failOnWarnings⟩
  match Run.file at' path goal o.overrides call.disk with
  | (.error cause, remarks) =>
    ⟨.interrupted cause, "", o.told call.clock (start ++ remarks), cause.disk call.disk⟩
  | (.ok outcome, remarks) =>
    let code := ExitCode.ofReport outcome.report
    ⟨.exit code.number, shownOf o outcome, o.told call.clock (start ++ remarks ++ [closing code]),
      outcome.disk⟩

def unaskable (call : Invocation) : Session :=
  ⟨.interrupted (.file (.refused ⟨.unaskable, none, none⟩)), "", "", call.disk⟩

def start (call : Invocation) (o : Options) (given : String) : Session :=
  let path := Path.absolute (Path.resolve call.current given)
  if given.toList.contains '\x00' then call.unaskable
  else match SchemaFile.lookAt call.disk [] path with
  | .error f => ⟨.interrupted (.file (.refused f)), "", "", call.disk⟩
  | .ok none => call.ended o .input "" [remark .error (FileFault.absent path).message]
  | .ok (some .directory) => call.ended o .input "" [remark .error (FileFault.notFile path).message]
  | .ok (some (.file _)) =>
    if o.validateOnly then call.check o path
    else if o.dryRun then call.generate o path none
    else match o.output with
      | some directory =>
        if directory.toList.contains '\x00' then call.unaskable
        else call.generate o path (some (Path.resolve call.current directory))
      | none =>
        let s := call.ended o .input ""
          [remark .error ("Output directory is required for generation. "
            ++ "Use -o/--output, --dry-run or --validate-only.")]
        { s with told := s.told ++ usage }

/-- The session of a command line. -/
def run (call : Invocation) (words : List String) : Session :=
  match Options.ofWords words with
  | .error .help => ⟨.exit 0, helpText, "", call.disk⟩
  | .error .version => ⟨.exit 0, programName ++ " v" ++ programVersion ++ "\n", "", call.disk⟩
  | .error .lostValue => ⟨.unread .lostValue, "", "", call.disk⟩
  | .error stop => ⟨.exit 2, "", usage ++ programName ++ ": error: " ++ stop.message ++ "\n", call.disk⟩
  | .ok (o, path) => call.start o path

end Invocation

end TypedClient.CommandLine
