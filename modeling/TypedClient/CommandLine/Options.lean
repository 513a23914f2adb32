import TypedClient.CommandLine.Words
import TypedClient.Data.Basic

set_option autoImplicit false

namespace TypedClient.CommandLine

structure Options where
  schema : Option String := none
  output : Option String := none
  validateOnly : Bool := false
  dryRun : Bool := false
  print : Bool := false
  clientName : Option String := none
  runtimePath : Option String := none
  clientVersion : Option String := none
  engineVersion : Option String := none
  noJs : Bool := false
  failOnWarnings : Bool := false
  verbose : Nat := 0
  quiet : Bool := false
  deriving DecidableEq, Repr

namespace Options

def raise (o : Options) : Flag → Except Stop Options
  | .help => .error .help
  | .version => .error .version
  | .validateOnly => .ok { o with validateOnly := true }
  | .dryRun => .ok { o with dryRun := true }
  | .print => .ok { o with print := true }
  | .noJs => .ok { o with noJs := true }
  | .failOnWarnings => .ok { o with failOnWarnings := true }
  | .verbose => .ok { o with verbose := o.verbose + 1 }
  | .quiet => .ok { o with quiet := true }
  | _ => .ok o

/-- The options with a value for a flag; a later value takes the place of an earlier one. -/
def withValue (o : Options) (value : String) : Flag → Options
  | .schema => { o with schema := some value }
  | .output => { o with output := some value }
  | .clientName => { o with clientName := some value }
  | .runtimePath => { o with runtimePath := some value }
  | .clientVersion => { o with clientVersion := some value }
  | .engineVersion => { o with engineVersion := some value }
  | _ => o

def set (o : Options) (value : String) (flag : Flag) : Except Stop Options :=
  if value == "--" then .error .lostValue else .ok (o.withValue value flag)

def raiseAll (o : Options) : List Flag → Except Stop Options
  | [] => .ok o
  | f :: rest => match o.raise f with
    | .error e => .error e
    | .ok o => o.raiseAll rest

/-- Take words; `strangers` are those that nothing is known of. The answer holds the strangers too. -/
def takeAll (o : Options) (strangers : List String) : List Word → Except Stop (Options × List String)
  | [] => .ok (o, strangers)
  | .text t :: rest | .stranger t :: rest => o.takeAll (strangers ++ [t]) rest
  | .marker :: rest => o.takeAll (strangers ++ ["--"]) rest
  | .flag f isShort attached :: rest =>
    match flagsOf f isShort attached with
    | .error e => .error e
    | .ok (flags, tail) => match tail, rest with
      | .nothing, rest => match o.raiseAll flags with
        | .error e => .error e
        | .ok o => o.takeAll strangers rest
      | .value g value, rest | .pending g, .text value :: rest =>
        match (o.raiseAll flags).bind (·.set value g) with
        | .error e => .error e
        | .ok o => o.takeAll strangers rest
      | .pending g, _ => .error (.noValue g)

def ofWords (words : List String) : Except Stop (Options × String) :=
  match classify words with
  | .error e => .error e
  | .ok ws => match ({} : Options).takeAll [] ws with
    | .error e => .error e
    | .ok (o, strangers) => match o.schema with
      | none => .error .noSchema
      | some path => if strangers.isEmpty then .ok (o, path) else .error (.unknown strangers)

def overrides (o : Options) : List (Scalar × Data) :=
  let given (key : String) (value : Option String) : List (Scalar × Data) :=
    value.elim [] fun v => [(.text key, .text v)]
  given "client_name" o.clientName ++ given "runtime_path" o.runtimePath
    ++ given "client_version" o.clientVersion ++ given "engine_version" o.engineVersion
    ++ if o.noJs then [(.text "emit_js", .scalar (.bool false))] else []

end Options

end TypedClient.CommandLine
