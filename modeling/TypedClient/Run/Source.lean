import TypedClient.Schema.Read
import TypedClient.Settings

set_option autoImplicit false

namespace TypedClient

inductive SourceFault where
  | document (issues : List Issue)
  | settings (issues : List Issue)
  deriving DecidableEq, Repr

namespace SourceFault

def heading : SourceFault → String
  | .document _ => "Schema validation failed"
  | .settings _ => "Config validation failed"

def sort : SourceFault → String
  | .document _ => "SchemaDocument"
  | .settings _ => Settings.sort

def issues : SourceFault → List Issue
  | .document issues | .settings issues => issues

def message (f : SourceFault) : String := f.heading ++ ": " ++ issueReport f.sort f.issues

end SourceFault

structure Source where
  document : Document
  settings : Settings
  deriving DecidableEq, Repr

namespace Source

/-- The keys that settings may stand under; the first one that holds a map is used. -/
def settingsKeys : List String := ["generator", "config"]

def mapUnder? (raw : List (Scalar × Data)) (key : String) : Option (List (Scalar × Data)) :=
  match Data.get? raw key with
  | some (.map entries) => some entries
  | _ => none

def rawSettings (raw : List (Scalar × Data)) : List (Scalar × Data) :=
  (settingsKeys.findSome? (mapUnder? raw)).getD []

def hasSettings (raw : List (Scalar × Data)) : Bool :=
  settingsKeys.any fun key => (mapUnder? raw key).isSome

def rawDocument (raw : List (Scalar × Data)) : List (Scalar × Data) :=
  match mapUnder? raw "document" with
  | some entries => entries
  | none => raw.filter fun e => ! settingsKeys.any fun key => e.1.isText key

def overlay (entries others : List (Scalar × Data)) : List (Scalar × Data) :=
  others.foldl (fun done e => Data.put done e.1 e.2) entries

/-- Read the data of a file, with settings that take the place of its own. -/
def read (raw overrides : List (Scalar × Data)) : Except SourceFault Source :=
  match Document.read (.map (rawDocument raw)) with
  | .bad issues => .error (.document issues)
  | .ok document => match Settings.read (.map (overlay (rawSettings raw) overrides)) with
    | .bad issues => .error (.settings issues)
    | .ok settings => .ok ⟨document, settings⟩

end Source

end TypedClient
