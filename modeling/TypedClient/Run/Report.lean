import TypedClient.Artifact
import TypedClient.Decimal.Notation
import TypedClient.Text.Digits

set_option autoImplicit false

namespace TypedClient

structure StepRecord where
  name : String
  success : Bool
  elapsed : Float
  detail : Text

structure Failures where
  input : List Text := []
  validation : List Text := []
  warnings : List Text := []
  generation : List Text := []
  output : List Text := []
  deriving DecidableEq, Repr

structure Measures where
  entities : Int := 0
  files : Int := 0
  lines : Int := 0
  bytes : Int := 0
  deriving DecidableEq, Repr

structure Report where
  success : Bool := false
  client : String := ""
  directory : Text := ""
  measures : Measures := {}
  elapsed : Float := 0.0
  steps : List StepRecord := []
  failures : Failures := {}

namespace Report

def doubleRule : String := String.ofList (List.replicate 60 '=')

def singleRule : String := String.ofList (List.replicate 60 '─')

def stepLine (s : StepRecord) : Text :=
  "    " ++ (if s.success then "✓" else "✗") ++ " " ++ Text.padRight 28 s.name ++ " "
    ++ Text.padLeft 7 (Decimal.fixed 3 s.elapsed) ++ "s  " ++ s.detail

def failureLines (title sign : String) : List Text → List Text
  | [] => []
  | items =>
    singleRule :: ("  " ++ title ++ " (" ++ toString items.length ++ "):")
      :: items.map fun item => "    " ++ sign ++ " " ++ item

def summary (r : Report) : Text :=
  Text.joinLines
    (([doubleRule,
        "  clientgen: Generation Report",
        doubleRule,
        "  Status:           " ++ (if r.success then "✅ SUCCESS" else "❌ FAILED"),
        "  Client:           " ++ r.client,
        "  Output:           " ++ (if r.directory.isEmpty then ↑"(not written)" else r.directory),
        "  Entities:         " ++ toString r.measures.entities,
        "  Files generated:  " ++ toString r.measures.files,
        "  Total lines:      " ++ Text.groupedInt r.measures.lines,
        "  Total bytes:      " ++ Text.groupedInt r.measures.bytes,
        "  Total time:       " ++ Decimal.fixed 3 r.elapsed ++ "s",
        singleRule] : List Text)
      ++ (if r.steps.isEmpty then [] else "  Pipeline Steps:" :: r.steps.map stepLine : List Text)
      ++ failureLines "Input Errors" "✗" r.failures.input
      ++ failureLines "Validation Errors" "✗" r.failures.validation
      ++ failureLines "Validation Warnings" "⚠" r.failures.warnings
      ++ failureLines "Generation Errors" "✗" r.failures.generation
      ++ failureLines "Export Errors" "✗" r.failures.output
      ++ [(doubleRule : Text)])

def timerText (label : String) (elapsed : Float) : String :=
  "<Timer " ++ label ++ ": " ++ Decimal.fixed 4 elapsed ++ "s>"

end Report

end TypedClient
