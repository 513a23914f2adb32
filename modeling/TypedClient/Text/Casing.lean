import TypedClient.Text.CaseTable
import TypedClient.Text.CasedTable
import TypedClient.Text.CharRange

set_option autoImplicit false

/-!
# Upper and lower case

Full case mapping, after the tables of Unicode. A character may become several. A capital sigma at the end
of a word has a small form of its own.
-/

namespace TypedClient.Text

def CaseRun.covers (r : CaseRun) (code : Nat) : Bool :=
  r.first ≤ code && code ≤ r.last && (code - r.first) % r.step == 0

/-- The case mapping that a table of runs and a table of expansions describe. -/
def mapCase (runs : List CaseRun) (expansions : List (Nat × List Nat)) (c : Char) : List Char :=
  match expansions.find? (·.1 == c.toNat) with
  | some e => e.2.map Char.ofNat
  | none =>
    match runs.find? (·.covers c.toNat) with
    | some r => [Char.ofNat (c.toNat + r.shift).toNat]
    | none => [c]

def upperChar (c : Char) : List Char := mapCase upperRuns upperExpansions c

def lowerChar (c : Char) : List Char := mapCase lowerRuns lowerExpansions c

/-- Whether the first character that is not passed over is a letter with case. -/
def startsCased (s : List Char) : Bool :=
  match s.dropWhile fun c => inRanges caselessMarkRanges c.toNat with
  | [] => false
  | c :: _ => inRanges casedRanges c.toNat

/-- Characters in lower case; `before` holds those in front of them, last first. -/
def lowerAfter (before : List Char) : List Char → List Char
  | [] => []
  | c :: rest =>
    if c == '\u03A3' && startsCased before && !startsCased rest then
      '\u03C2' :: lowerAfter (c :: before) rest
    else lowerChar c ++ lowerAfter (c :: before) rest

def lower (s : String) : String := String.ofList (lowerAfter [] s.toList)

def capitalize (s : String) : String :=
  match s.toList with
  | [] => ""
  | c :: rest => String.ofList (upperChar c ++ rest)

def uncapitalize (s : String) : String :=
  match s.toList with
  | [] => ""
  | c :: rest => String.ofList (lowerChar c ++ rest)

end TypedClient.Text
