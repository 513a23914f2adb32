import TypedClient.Data.Shown
import TypedClient.Text.Lines

set_option autoImplicit false

namespace TypedClient

inductive Level where
  | error
  | warning
  | info
  deriving DecidableEq, Repr

namespace Level

def word : Level → String
  | .error => "error"
  | .warning => "warning"
  | .info => "info"

def capitals : Level → String
  | .error => "ERROR"
  | .warning => "WARNING"
  | .info => "INFO"

def sign : Level → String
  | .error => "✗"
  | .warning => "⚠"
  | .info => "ℹ"

end Level

structure Finding where
  level : Level
  code : String
  message : Text
  context : List (String × Json)

def Finding.line (f : Finding) : Text :=
  "[" ++ f.level.capitals ++ "] " ++ f.code ++ ": " ++ f.message

def Finding.reportLines (f : Finding) : List Text :=
  ("  " ++ f.level.sign ++ " [" ++ f.code ++ "] " ++ f.message)
    :: f.context.map fun c => "       " ++ c.1 ++ ": " ++ (Data.ofJson c.2).plainText

abbrev Findings := List Finding

namespace Findings

def errors (fs : Findings) : List Finding := fs.filter (·.level == .error)

def warnings (fs : Findings) : List Finding := fs.filter (·.level == .warning)

def isValid (fs : Findings) : Bool := fs.all (·.level != .error)

def codes (fs : Findings) : List String := fs.map (·.code)

def summary (fs : Findings) : String :=
  "Validation: " ++ toString fs.errors.length ++ " error(s), " ++ toString fs.warnings.length
    ++ " warning(s), " ++ toString fs.length ++ " total item(s)."

def shown (fs : Findings) : String := "<ValidationResult " ++ fs.summary ++ ">"

def report (includeInfo : Bool) (fs : Findings) : Text :=
  let asked := if includeInfo then fs else fs.filter (·.level != .info)
  Text.joinLines (fs.summary :: "" :: asked.flatMap (·.reportLines))

end Findings

end TypedClient
