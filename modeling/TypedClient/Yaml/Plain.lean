import TypedClient.Yaml.Quoted

set_option autoImplicit false

namespace TypedClient.Yaml

def isFlowMark (c : Char) : Bool := c == ',' || c == '?' || c == '[' || c == ']' || c == '\x7b' || c == '\x7d'

def colonEnds (inBrackets : Bool) (rest : List Char) : Bool :=
  gapOrEnd rest || inBrackets && (rest.head?.any fun c => isFlowMark c && c != '?')

def plainRun (inBrackets : Bool) : List Char → List Char × List Char
  | [] => ([], [])
  | c :: rest =>
    if isGap c || c == ':' && colonEnds inBrackets rest || inBrackets && isFlowMark c then ([], c :: rest)
    else
      let (run, left) := plainRun inBrackets rest
      (c :: run, left)

/-- The line ends behind a first line end, last first, and the number of characters up to the next word, on
top of `count`. There are none if a mark between documents comes. -/
def plainLines (more : List Char) (count : Nat) : List Char → Option (List Char) × Nat
  | [] => (some more, count)
  | c :: rest =>
    if c == ' ' then plainLines more (count + 1) rest
    else if isBreak c then
      if isSeparator rest then (none, count + 1) else plainLines (breakValue c :: more) (count + 1) rest
    else (some more, count)

structure PlainGap where
  /-- What the gap becomes if the scalar goes on; empty if it cannot. -/
  value : List Char
  size : Nat
  crossed : Bool

def plainGap (s : List Char) : PlainGap :=
  let blanks := s.takeWhile (· == ' ')
  match s.dropWhile (· == ' ') with
  | [] => ⟨blanks, blanks.length, false⟩
  | c :: rest =>
    if isBreak c then
      let size := blanks.length + 1
      if isSeparator rest then ⟨[], size, true⟩
      else match plainLines [] size rest with
        | (none, size) => ⟨[], size, true⟩
        | (some more, size) => ⟨folded (some (breakValue c)) more, size, true⟩
    else ⟨blanks, blanks.length, false⟩

structure PlainScalar where
  text : List Char
  cursor : Cursor
  /-- Whether the reader stands behind a line end that no longer belongs to the scalar. -/
  crossed : Bool

/-- Read on in a plain scalar; `done` is what was read so far, last first, `gap` stands between that and
what comes, and `fuel` bounds the number of runs. -/
def readPlainFrom (inBrackets : Bool) (indent : Int) : Nat → List Char → List Char → Bool → Cursor → PlainScalar
  | 0, done, _, crossed, c => ⟨done.reverse, c, crossed⟩
  | fuel + 1, done, gap, crossed, c =>
    let (run, _) := plainRun inBrackets c.rest
    if c.rest.head? == some '#' || run.isEmpty then ⟨done.reverse, c, crossed⟩
    else
      let c := c.forward run.length
      let next := plainGap c.rest
      let c := c.forward next.size
      let done := run.reverse ++ (gap.reverse ++ done)
      if next.value.isEmpty || c.rest.head? == some '#' || !inBrackets && c.column < indent then
        ⟨done.reverse, c, next.crossed⟩
      else readPlainFrom inBrackets indent fuel done next.value next.crossed c

/-- Read a plain scalar whose further lines are indented more than `indent`; `fuel` is at least the number of
characters. -/
def readPlain (fuel : Nat) (inBrackets : Bool) (indent : Int) (c : Cursor) : PlainScalar :=
  readPlainFrom inBrackets (indent + 1) (fuel + 1) [] [] false c

end TypedClient.Yaml
