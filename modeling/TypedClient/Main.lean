import Std.Time.Format
import TypedClient.CommandLine.Session

set_option autoImplicit false

/-!
# The program

A call is worked out on a disk that holds what the machine has at the places that the call may touch. What it
has changed there is carried over to the machine. Where the machine refuses a change, the call is worked out
again on a disk that refuses it for the same reason.
-/

namespace TypedClient.Program

open Files CommandLine

def trail (place : List Text) : List (List Text) :=
  (List.range place.length).map fun n => place.take (n + 1)

/-- The places that the words of a call name, and those that lead to them. -/
def named (current : List Text) (words : List String) : List (List Text) :=
  match Options.ofWords words with
  | .error _ => []
  | .ok (o, path) => (path :: o.output.toList).flatMap fun p : String => trail (Path.resolve current p)

def machinePath (place : List Text) : String := (Path.absolute place).printable

def look (place : List Text) : IO (Option Entry) := do
  let path := (← IO.currentDir) / machinePath place
  if ← path.isDir then return some .directory
  if ← path.pathExists then return some (.file (← IO.FS.readBinFile path))
  return none

def diskOf (places : List (List Text)) : IO Disk :=
  places.foldlM (fun d place => return (← look place).elim d (d.put place)) {}

def reasonOf : IO.Error → Reason
  | .noFileOrDirectory .. => .missing
  | .permissionDenied _ code _ => if code.toNat = Reason.readOnly.number then .readOnly else .denied
  | .resourceExhausted .. => .full
  | .resourceBusy .. => .busy
  | .alreadyExists .. => .taken
  | .inappropriateType .. => .notDirectory
  | _ => .failedDevice

def beside (place : List Text) : List Text :=
  place.dropLast ++ [Disk.temporaryName (place.getLast?.getD "") 0]

def stage (place : List Text) : Entry → IO Unit
  | .directory => IO.FS.createDirAll (machinePath place)
  | .file content => IO.FS.writeBinFile (machinePath (beside place)) content

def settle (place : List Text) : Entry → IO Unit
  | .directory => pure ()
  | .file _ => IO.FS.rename (machinePath (beside place)) (machinePath place)

def discard (place : List Text) : Entry → IO Unit
  | .directory => pure ()
  | .file _ => do
    let path := (← IO.currentDir) / machinePath (beside place)
    if ← path.pathExists then IO.FS.removeFile path

/-- Whether a call is the one that would change a place: it makes the directory, or it is for a file that goes
there or beside it. -/
def changes (place : List Text) (entry : Entry) (isMove : Bool) : Call → Bool
  | .makeDirectory path => entry == .directory && path == place
  | .create path => entry != .directory && !isMove && path.dropLast == place.dropLast
  | .write _ => false
  | .move _ goal => isMove && goal == place

/-- Carry changes over to the machine. If one is refused, the answer tells which and why. -/
def carry (changed : List (List Text × Entry)) : IO (Option ((Call → Bool) × Reason)) := do
  let withdraw : IO Unit := changed.forM fun (place, entry) => discard place entry
  for (place, entry) in changed do
    try stage place entry
    catch e =>
      withdraw
      return some (changes place entry false, reasonOf e)
  for (place, entry) in changed do
    try settle place entry
    catch e =>
      withdraw
      return some (changes place entry true, reasonOf e)
  return none

/-- Work a call out and carry its changes over, with at most so many refusals of the machine. -/
def perform (call : Invocation) (words : List String) : Nat → IO Session
  | 0 => return call.run words
  | refusals + 1 => do
    let session := call.run words
    let changed := session.disk.entries.filter fun (place, entry) => call.disk.get? place ≠ some entry
    match ← carry changed with
    | none => return session
    | some (matters, reason) =>
      let refuses (c : Call) := if matters c then some reason else call.disk.refuses c
      perform { call with disk := { call.disk with refuses } } words refusals

/-- Run the program and end with its code. What ends a run without a report is told as an error. -/
def run (words : List String) : IO UInt32 := do
  let now ← Std.Time.DateTime.now
  let clock : Clock :=
    { stamp := now.format "uuuu-MM-dd" ++ "T" ++ now.format "HH:mm:ss" ++ now.offset.toIsoString false
      time := now.format "HH:mm:ss" }
  let current := Path.resolve [] (← IO.currentDir).toString
  let known ← diskOf (named current words)
  let touched := ((⟨clock, current, known⟩ : Invocation).run words).disk.entries.map (·.1)
  let session ← perform ⟨clock, current, ← diskOf touched⟩ words (touched.length + 1)
  IO.eprint session.told.printable
  if let some f := session.shown.encodingFault? then
    IO.eprintln (programName ++ ": " ++ f.message)
    return 1
  IO.print session.shown.printable
  match session.ending with
  | .exit number => return number.toUInt32
  | .interrupted cause =>
    IO.eprintln (programName ++ ": " ++ cause.message.printable)
    return 1
  | .unread stop =>
    IO.eprintln (programName ++ ": " ++ stop.message)
    return 1

end TypedClient.Program

def main (words : List String) : IO UInt32 := TypedClient.Program.run words
