import TypedClient.Check.Finding
import TypedClient.Text.Digits

set_option autoImplicit false

namespace TypedClient

inductive Speaker where
  | program
  | generator
  | publisher
  deriving DecidableEq, Repr

def Speaker.name : Speaker → String
  | .program => "clientgen"
  | .generator => "clientgen.generator"
  | .publisher => "clientgen.exporters"

structure Remark where
  level : Level
  speaker : Speaker
  text : Text
  deriving DecidableEq, Repr

namespace Remark

def shown (time : String) (r : Remark) : Text :=
  time ++ " │ " ++ Text.padRight 8 r.level.capitals ++ " │ " ++ r.speaker.name ++ " │ " ++ r.text

end Remark

inductive Verbosity where
  | errors
  | warnings
  | all
  deriving DecidableEq, Repr

def Verbosity.shows : Verbosity → Level → Bool
  | _, .error => true
  | .errors, _ => false
  | _, .warning => true
  | .warnings, .info => false
  | .all, .info => true

end TypedClient
