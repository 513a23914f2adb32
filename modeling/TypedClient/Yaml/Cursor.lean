set_option autoImplicit false

namespace TypedClient.Yaml

def isBreak (c : Char) : Bool := c == '\n' || c == '\x85' || c == '\u2028' || c == '\u2029'

def breakValue (c : Char) : Char := if c == '\x85' then '\n' else c

def isGap (c : Char) : Bool := c == ' ' || c == '\t' || isBreak c

def gapOrEnd : List Char → Bool
  | [] => true
  | c :: _ => isGap c

def blankOrEnd : List Char → Bool
  | [] => true
  | c :: _ => c == ' ' || isBreak c

/-- Whether a mark between two documents stands here; this is asked at the start of lines only. -/
def isSeparator : List Char → Bool
  | '-' :: '-' :: '-' :: rest => gapOrEnd rest
  | '.' :: '.' :: '.' :: rest => gapOrEnd rest
  | _ => false

def isAllowed (c : Char) : Bool :=
  c == '\t' || c == '\n' || c == '\r' || c == '\x85' || (' ' ≤ c && c ≤ '~')
    || ('\u00a0' ≤ c && c != '\uFFFE' && c != '\uFFFF')

structure Cursor where
  rest : List Char
  index : Nat := 0
  row : Nat := 0
  column : Nat := 0

namespace Cursor

def next (c : Cursor) : Cursor :=
  match c.rest with
  | [] => c
  | ch :: rest =>
    if isBreak ch then ⟨rest, c.index + 1, c.row + 1, 0⟩
    else if ch == '\uFEFF' then ⟨rest, c.index + 1, c.row, c.column⟩
    else ⟨rest, c.index + 1, c.row, c.column + 1⟩

def forward (c : Cursor) : Nat → Cursor
  | 0 => c
  | n + 1 => c.next.forward n

def line (c : Cursor) : List Char :=
  c.rest.takeWhile (! isBreak ·) ++ (c.rest.dropWhile (! isBreak ·)).take 1

end Cursor

end TypedClient.Yaml
