import TypedClient.Json.Parser
import TypedClient.Text.Digits
import TypedClient.Text.Quoted

set_option autoImplicit false

namespace TypedClient.Yaml

inductive Fault where
  | malformed
  | noCharacter (code : Nat)
  | notBool (word : String)
  | notWhole (base : Nat) (word : Text)
  | digits (count : Nat)
  | notDecimal (word : Text)
  | noDigits
  | hugeWeight
  | notMoment
  /-- A moment is wanted where a collection of the named sort stands. -/
  | collectionForMoment (sort : String)
  | year (n : Nat)
  | month
  | day
  | hour
  | minute
  | second
  /-- A distance from universal time of a day or more, in minutes. -/
  | offset (minutes : Int)
  | tooDeep
  deriving DecidableEq, Repr

namespace Fault

def span (minutes : Int) : String :=
  let days := Int.fdiv minutes 1440
  let seconds := 60 * Int.fmod minutes 1440
  let parts := (if days = 0 then [] else ["days=" ++ toString days])
    ++ (if seconds = 0 then [] else ["seconds=" ++ toString seconds])
  "datetime.timedelta(" ++ (if parts.isEmpty then "0" else ", ".intercalate parts) ++ ")"

def cutWord (word : Text) : String := String.ofList ((Text.quoted word).toList.take 200)

def message : Fault → String
  | malformed => "the text is not well-formed YAML"
  | noCharacter code =>
    if code < 0x80000000 then "chr() arg not in range(0x110000)"
    else "Python int too large to convert to C int"
  | notBool word => word
  | notWhole base word =>
    "invalid literal for int() with base " ++ toString base ++ ": " ++ cutWord word
  | digits count => (Json.Cause.digits count).message
  | notDecimal word => "could not convert string to float: " ++ Text.quoted word
  | noDigits => "string index out of range"
  | hugeWeight => "int too large to convert to float"
  | notMoment => "'NoneType' object has no attribute 'groupdict'"
  | collectionForMoment sort => "expected string or bytes-like object, got '" ++ sort ++ "'"
  | year n => "year " ++ toString n ++ " is out of range"
  | month => "month must be in 1..12"
  | day => "day is out of range for month"
  | hour => "hour must be in 0..23"
  | minute => "minute must be in 0..59"
  | second => "second must be in 0..59"
  | offset minutes =>
    "offset must be a timedelta strictly between -timedelta(hours=24) and timedelta(hours=24), not "
      ++ span minutes ++ "."
  | tooDeep => "maximum recursion depth exceeded"

/-- Whether a fault lies in the value of a scalar, such that a reader of files can tell it and go on. The
others end the run. -/
def isValueFault : Fault → Bool
  | noCharacter code => code < 0x80000000
  | notBool _ | noDigits | hugeWeight | notMoment | collectionForMoment _ | tooDeep => false
  | _ => true

end Fault

end TypedClient.Yaml
