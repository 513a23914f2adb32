import TypedClient.Files.Fault
import TypedClient.Files.Path
import TypedClient.Text.Digits

set_option autoImplicit false

/-!
# Disks

A disk holds directories and files, each at a place: the names that lead to it from the root. Paths are
followed name by name, so two dots lead back only out of a directory that is there. Beside what its content
forbids, a disk may refuse calls for reasons of its own, and some paths are refused on every disk.

A file is written beside its goal under a name that is still free, and moved onto the goal afterwards.
-/

namespace TypedClient.Files

inductive Entry where
  | directory
  | file (content : ByteArray)

instance : DecidableEq Entry
  | .directory, .directory => isTrue rfl
  | .directory, .file _ => isFalse Entry.noConfusion
  | .file _, .directory => isFalse Entry.noConfusion
  | .file a, .file b => match ByteArray.decEq a b with
    | isTrue h => isTrue (congrArg Entry.file h)
    | isFalse h => isFalse fun e => h (Entry.file.inj e)

/-- Calls that change a disk, with the paths they are for. -/
inductive Call where
  | makeDirectory (path : List Text)
  | create (path : List Text)
  | write (path : List Text)
  | move (path goal : List Text)
  deriving DecidableEq, Repr

/-- The paths that a call hands to the system; a file that is written is open already. -/
def Call.paths : Call → List (List Text)
  | makeDirectory path | create path => [path]
  | write _ => []
  | move path goal => [path, goal]

def pathRefusal? (path : List Text) : Option Reason :=
  match (Path.absolute path).encodingFault? with
  | some f => some (.unencodable f)
  | none =>
    if Path.holdsEnd path then some .unaskable
    else if Path.isLong (Path.absolute path) then some .longName
    else none

structure Disk where
  entries : List (List Text × Entry) := []
  refuses : Call → Option Reason := fun _ => none

namespace Disk

def entryAt? (place : List Text) : List (List Text × Entry) → Option Entry
  | [] => none
  | (other, entry) :: rest => if place = other then some entry else entryAt? place rest

/-- A list of entries with one put in: a place that is taken gets the new entry. -/
def putEntry (place : List Text) (entry : Entry) :
    List (List Text × Entry) → List (List Text × Entry)
  | [] => [(place, entry)]
  | (other, old) :: rest =>
    if place = other then (other, entry) :: rest else (other, old) :: putEntry place entry rest

def eraseEntry (place : List Text) : List (List Text × Entry) → List (List Text × Entry)
  | [] => []
  | (other, old) :: rest =>
    if place = other then eraseEntry place rest else (other, old) :: eraseEntry place rest

theorem entryAt?_putEntry (place other : List Text) (entry : Entry)
    (entries : List (List Text × Entry)) :
    entryAt? other (putEntry place entry entries)
      = if other = place then some entry else entryAt? other entries := by
  induction entries with
  | nil => rfl
  | cons e rest ih =>
    by_cases hp : place = e.1 <;> by_cases ho : other = e.1 <;> simp_all [putEntry, entryAt?]
    exact fun h => absurd h.symm hp

theorem entryAt?_eraseEntry (place other : List Text) (entries : List (List Text × Entry)) :
    entryAt? other (eraseEntry place entries)
      = if other = place then none else entryAt? other entries := by
  induction entries with
  | nil => simp [eraseEntry, entryAt?]
  | cons e rest ih =>
    by_cases hp : place = e.1 <;> by_cases ho : other = e.1 <;> simp_all [eraseEntry, entryAt?]
    exact fun h => absurd h.symm hp

def get? (d : Disk) (place : List Text) : Option Entry :=
  if place = [] then some .directory else entryAt? place d.entries

def put (d : Disk) (place : List Text) (entry : Entry) : Disk :=
  { d with entries := putEntry place entry d.entries }

def erase (d : Disk) (place : List Text) : Disk :=
  { d with entries := eraseEntry place d.entries }

theorem get?_put (d : Disk) (place other : List Text) (entry : Entry) (h : other ≠ []) :
    (d.put place entry).get? other = if other = place then some entry else d.get? other := by
  simp [get?, put, h, entryAt?_putEntry]

theorem get?_erase (d : Disk) (place other : List Text) (h : other ≠ []) :
    (d.erase place).get? other = if other = place then none else d.get? other := by
  simp [get?, erase, h, entryAt?_eraseEntry]

def isLong (name : Text) : Bool := 255 < name.toUTF8.size

/-- Follow names from a place. All but the last lead through directories, and each of them is there. -/
def follow (d : Disk) (place : List Text) : List Text → Except Reason (List Text)
  | [] => .ok place
  | name :: rest =>
    match d.get? place with
    | none => .error .missing
    | some (.file _) => .error .notDirectory
    | some .directory =>
      if name == ".." then d.follow place.dropLast rest
      else if isLong name then .error .longName
      else if (d.get? (place ++ [name])).isNone then .error .missing
      else d.follow (place ++ [name]) rest

def look (d : Disk) (path : List Text) : Except Reason Entry :=
  match d.follow [] path with
  | .error r => .error r
  | .ok place => match d.get? place with
    | none => .error .missing
    | some e => .ok e

def isDirectory (d : Disk) (path : List Text) : Bool :=
  match d.look path with
  | .ok .directory => true
  | _ => false

/-- The place that a path names in a directory that is there; none if the path ends in two dots or is the
root. -/
def slot (d : Disk) (path : List Text) : Except Reason (Option (List Text)) :=
  match path.getLast? with
  | none => .ok none
  | some name => match d.look path.dropLast, d.follow [] path.dropLast with
    | .error r, _ => .error r
    | .ok (.file _), _ => .error .notDirectory
    | .ok .directory, .error r => .error r
    | .ok .directory, .ok parent =>
      if name == ".." then .ok none
      else if isLong name then .error .longName
      else .ok (some (parent ++ [name]))

def refusal? (d : Disk) (call : Call) : Option Reason :=
  (call.paths.findSome? pathRefusal?).orElse fun _ => d.refuses call

def makeDirectory (d : Disk) (path : List Text) : Except Reason Disk :=
  match d.refusal? (.makeDirectory path) with
  | some r => .error r
  | none => match d.slot path with
    | .error r => .error r
    | .ok none => .error .taken
    | .ok (some place) =>
      if (d.get? place).isSome then .error .taken else .ok (d.put place .directory)

/-- Make a directory and those that lead to it. One that is there already is no fault. -/
def makeDirectories (d : Disk) (path : List Text) : Disk × Option Fault :=
  let refused (d : Disk) (r : Reason) : Disk × Option Fault := (d, some ⟨r, some (Path.absolute path), none⟩)
  let settled (d : Disk) (r : Reason) : Disk × Option Fault :=
    if d.isDirectory path then (d, none) else refused d r
  match d.makeDirectory path with
  | .ok d => (d, none)
  | .error .missing =>
    if _h : path = [] then refused d .missing
    else match d.makeDirectories path.dropLast with
      | (d, some f) => (d, some f)
      | (d, none) => match d.makeDirectory path with
        | .ok d => (d, none)
        | .error .missing => refused d .missing
        | .error r => settled d r
  | .error r => settled d r
termination_by path.length
decreasing_by
  have := List.length_pos_iff.2 _h
  simp only [List.length_dropLast]
  omega

def create (d : Disk) (path : List Text) : Except Reason Disk :=
  match d.refusal? (.create path) with
  | some r => .error r
  | none => match d.slot path with
    | .error r => .error r
    | .ok none => .error .taken
    | .ok (some place) =>
      if (d.get? place).isSome then .error .taken else .ok (d.put place (.file .empty))

def write (d : Disk) (path : List Text) (content : ByteArray) : Except Reason Disk :=
  match d.refusal? (.write path) with
  | some r => .error r
  | none => match d.slot path with
    | .error r => .error r
    | .ok none => .error .isDirectory
    | .ok (some place) => .ok (d.put place (.file content))

/-- Move a file onto a goal; a file at the goal gives way, a directory does not. -/
def move (d : Disk) (path goal : List Text) : Except Reason Disk :=
  match d.refusal? (.move path goal) with
  | some r => .error r
  | none => match d.slot path, d.slot goal with
    | .error r, _ => .error r
    | .ok _, .error r => .error r
    | .ok none, .ok _ | .ok (some _), .ok none => .error .busy
    | .ok (some source), .ok (some place) => match d.get? source, d.get? place with
      | some (.file _), some .directory => .error .isDirectory
      | some (.file content), _ => .ok ((d.erase source).put place (.file content))
      | some .directory, _ => .error .notDirectory
      | none, _ => .error .missing

/-- A name for the time until a file is moved: the goal's name between a dot and a number. -/
def temporaryName (name : Text) (number : Nat) : Text :=
  "." ++ name ++ "." ++ Text.zeroPadded 8 number ++ ".tmp"

/-- The first such name that is free in a directory. Among one more names than there are entries one is. -/
def freshName (d : Disk) (directory : List Text) (name : Text) : Text :=
  temporaryName name
    (((List.range (d.entries.length + 1)).find? fun n =>
      (d.get? (directory ++ [temporaryName name n])).isNone).getD 0)

end Disk

end TypedClient.Files
