import TypedClient.Text.Quoted
import TypedClient.Text.Utf8

set_option autoImplicit false

namespace TypedClient.Files

inductive Reason where
  | missing
  | failedDevice
  | denied
  | busy
  | taken
  | notDirectory
  | isDirectory
  | full
  | readOnly
  | longName
  /-- The path holds the character that ends texts inside the system, so the system is not asked. -/
  | unaskable
  /-- What should be written has no encoding, so the system is not asked. -/
  | unencodable (fault : Text.EncodingFault)
  deriving DecidableEq, Repr

namespace Reason

def number : Reason → Nat
  | .missing => 2
  | .failedDevice => 5
  | .denied => 13
  | .busy => 16
  | .taken => 17
  | .notDirectory => 20
  | .isDirectory => 21
  | .full => 28
  | .readOnly => 30
  | .longName => 36
  | .unaskable | .unencodable _ => 0

def words : Reason → String
  | .missing => "No such file or directory"
  | .failedDevice => "Input/output error"
  | .denied => "Permission denied"
  | .busy => "Device or resource busy"
  | .taken => "File exists"
  | .notDirectory => "Not a directory"
  | .isDirectory => "Is a directory"
  | .full => "No space left on device"
  | .readOnly => "Read-only file system"
  | .longName => "File name too long"
  | .unaskable => "embedded null byte"
  | .unencodable fault => fault.message

def sort : Reason → String
  | .missing => "FileNotFoundError"
  | .denied => "PermissionError"
  | .taken => "FileExistsError"
  | .notDirectory => "NotADirectoryError"
  | .isDirectory => "IsADirectoryError"
  | .unaskable => "ValueError"
  | .unencodable _ => "UnicodeEncodeError"
  | _ => "OSError"

def isSystems : Reason → Bool
  | .unaskable | .unencodable _ => false
  | _ => true

end Reason

/-- A refused operation. Where the file is open already no path is told. -/
structure Fault where
  reason : Reason
  path : Option Text
  goal : Option Text := none
  deriving DecidableEq, Repr

def Fault.message (f : Fault) : String :=
  if !f.reason.isSystems then f.reason.words
  else "[Errno " ++ toString f.reason.number ++ "] " ++ f.reason.words
    ++ (f.path.elim "" fun p => ": " ++ Text.quoted p) ++ f.goal.elim "" fun g => " -> " ++ Text.quoted g

end TypedClient.Files
