import TypedClient.Yaml.Cursor
import TypedClient.Yaml.Fault

set_option autoImplicit false

namespace TypedClient.Yaml

/-- What becomes of the line ends behind the last line. -/
inductive Chomping where
  | clip
  | strip
  | keep
  deriving DecidableEq

def Chomping.ofSign? : Char → Option Chomping
  | '+' => some .keep
  | '-' => some .strip
  | _ => none

def indentDigit? (c : Char) : Option Nat := if c.isDigit then some (c.toNat - 48) else none

/-- The head of a block scalar: the treatment of the last line ends and the indentation, in any order, and
the rest behind the end of the line. A comment may stand there. -/
def blockHead (s : List Char) : Except Fault (Chomping × Option Nat × List Char) :=
  let (chomping, indent, rest) : Chomping × Option Nat × List Char := match s with
    | [] => (.clip, none, [])
    | c :: rest => match Chomping.ofSign? c, indentDigit? c with
      | some chomping, _ => match rest with
        | [] => (chomping, none, rest)
        | d :: more => match indentDigit? d with
          | some n => (chomping, some n, more)
          | none => (chomping, none, rest)
      | none, some n => match rest with
        | [] => (.clip, some n, rest)
        | d :: more => match Chomping.ofSign? d with
          | some chomping => (chomping, some n, more)
          | none => (.clip, some n, rest)
      | none, none => (.clip, none, s)
  if indent = some 0 || !blankOrEnd rest then .error .malformed
  else
    let rest := rest.dropWhile (· == ' ')
    let rest := if rest.head? == some '#' then rest.dropWhile fun c => !isBreak c else rest
    match rest with
    | [] => .ok (chomping, indent, [])
    | c :: rest => if isBreak c then .ok (chomping, indent, rest) else .error .malformed

/-- Empty lines in front of a line: their line ends, last first, the column that is reached, and the rest.
At most `indent` blanks of a line are read. -/
def emptyLines (indent column : Nat) (breaks : List Char) : List Char → List Char × Nat × List Char
  | [] => (breaks, column, [])
  | c :: rest =>
    if c == ' ' && column < indent then emptyLines indent (column + 1) breaks rest
    else if isBreak c then emptyLines indent 0 (breakValue c :: breaks) rest
    else (breaks, column, c :: rest)

/-- Empty lines where the indentation is not known: beside the answer of `emptyLines`, the most blanks that
a line starts with. -/
def leadingLines (column most : Nat) (breaks : List Char) : List Char → List Char × Nat × Nat × List Char
  | [] => (breaks, column, most, [])
  | c :: rest =>
    if c == ' ' then leadingLines (column + 1) (max most (column + 1)) breaks rest
    else if isBreak c then leadingLines 0 most (breakValue c :: breaks) rest
    else (breaks, column, most, c :: rest)

def startsWithGap (s : List Char) : Bool := s.head?.any fun c => c == ' ' || c == '\t'

/-- The lines of a block scalar. `text` is what was read, `breaks` the line ends in front of the line, last
first, and `fuel` bounds the number of lines. The answer is the text, its last line end, the line ends
behind that, and the rest. -/
def blockLines (isFolded : Bool) (indent : Nat) :
    Nat → List Char → List Char → Nat → List Char → List Char × List Char × List Char × List Char
  | 0, text, breaks, _, s => (text, [], breaks, s)
  | fuel + 1, text, breaks, column, s =>
    if column ≠ indent || s.isEmpty then (text, [], breaks, s)
    else
      let text := text ++ breaks.reverse ++ s.takeWhile fun c => !isBreak c
      let rest := s.dropWhile fun c => !isBreak c
      let lineEnd := (rest.take 1).map breakValue
      let (breaks, column, rest) := emptyLines indent 0 [] (rest.drop 1)
      if column = indent && !rest.isEmpty then
        let between :=
          if isFolded && lineEnd == ['\n'] && !startsWithGap s && !startsWithGap rest then
            if breaks.isEmpty then [' '] else []
          else lineEnd
        blockLines isFolded indent fuel (text ++ between) breaks column rest
      else (text, lineEnd, breaks, rest)

def readBlock (isFolded : Bool) (outer : Int) (s : List Char) : Except Fault (List Char × List Char) :=
  match blockHead s with
  | .error f => .error f
  | .ok (chomping, indent?, rest) =>
    let least := max (outer + 1).toNat 1
    let (indent, breaks, column, rest) : Nat × List Char × Nat × List Char := match indent? with
      | none =>
        let (breaks, column, most, rest) := leadingLines 0 0 [] rest
        (max least most, breaks, column, rest)
      | some n =>
        let indent := least + n - 1
        let (breaks, column, rest) := emptyLines indent 0 [] rest
        (indent, breaks, column, rest)
    let (text, lineEnd, breaks, rest) := blockLines isFolded indent (rest.length + 1) [] breaks column rest
    .ok (match chomping with
      | .strip => text
      | .clip => text ++ lineEnd
      | .keep => text ++ lineEnd ++ breaks.reverse, rest)

end TypedClient.Yaml
