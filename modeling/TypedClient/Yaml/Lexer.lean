import TypedClient.Yaml.Block
import TypedClient.Yaml.Plain
import TypedClient.Yaml.Token

set_option autoImplicit false

namespace TypedClient.Yaml

structure Candidate where
  number : Nat
  isRequired : Bool
  index : Nat
  row : Nat
  column : Nat

structure Lexer where
  cursor : Cursor
  size : Nat
  tokens : List Token := []
  count : Nat := 0
  depth : Nat := 0
  /-- The column of the present block collection; -1 outside of all. -/
  indent : Int := -1
  outer : List Int := []
  allowsKey : Bool := true
  /-- The candidates, each with the number of brackets that were open. -/
  candidates : List (Nat × Candidate) := []

namespace Lexer

abbrev Step := Except Fault Lexer

def push (x : Lexer) (t : Token) : Lexer := { x with tokens := t :: x.tokens, count := x.count + 1 }

def insert (x : Lexer) (number : Nat) (t : Token) : Lexer :=
  { x with tokens := x.tokens.insertIdx (x.count - number) t, count := x.count + 1 }

def forward (x : Lexer) (n : Nat) : Lexer := { x with cursor := x.cursor.forward n }

def isStale (x : Lexer) (k : Candidate) : Bool :=
  k.row != x.cursor.row || 1024 < x.cursor.index - k.index

def dropStale (x : Lexer) : Step :=
  if x.candidates.any fun k => x.isStale k.2 && k.2.isRequired then .error .malformed
  else .ok { x with candidates := x.candidates.filter fun k => !x.isStale k.2 }

/-- Number of tokens that are settled: what stands in front of the first candidate does not change. -/
def settledCount (x : Lexer) : Nat :=
  x.candidates.foldl (fun n k => if x.isStale k.2 then n else min n k.2.number) x.count

def candidate? (x : Lexer) : Option Candidate := x.candidates.lookup x.depth

def dropCandidate (x : Lexer) : Step :=
  match x.candidate? with
  | none => .ok x
  | some k =>
    if k.isRequired then .error .malformed
    else .ok { x with candidates := x.candidates.filter (·.1 != x.depth) }

def saveCandidate (x : Lexer) : Step :=
  if x.allowsKey then
    match x.dropCandidate with
    | .error f => .error f
    | .ok x =>
      let c := x.cursor
      let k : Candidate :=
        ⟨x.count, x.depth == 0 && x.indent == (c.column : Int), c.index, c.row, c.column⟩
      .ok { x with candidates := (x.depth, k) :: x.candidates }
  else .ok x

/-- Close the block collections that a column lies left of; the list holds the columns around. -/
def unwindFrom (column : Int) : List Int → Lexer → Lexer
  | [], x => x
  | around :: rest, x =>
    if column < x.indent then
      unwindFrom column rest { x.push .blockEnd with indent := around, outer := rest }
    else x

/-- Close the block collections that a column lies left of, unless brackets are open. -/
def unwind (x : Lexer) (column : Int) : Lexer :=
  if x.depth == 0 then unwindFrom column x.outer x else x

/-- Open a block collection at a column, if it lies right of the present one. -/
def opens (x : Lexer) (column : Nat) : Option Lexer :=
  if x.indent < column then some { x with indent := column, outer := x.indent :: x.outer } else none

/-- Read blanks, comments and line ends; the given characters are those that come next. Behind a line end
outside of brackets a key may start. -/
def skipGapsIn (inComment : Bool) : List Char → Lexer → Lexer
  | [], x => x
  | ch :: rest, x =>
    let behind := { x with cursor := x.cursor.next }
    if isBreak ch then skipGapsIn false rest { behind with allowsKey := x.allowsKey || x.depth == 0 }
    else if inComment || ch == '#' then skipGapsIn true rest behind
    else if ch == ' ' then skipGapsIn false rest behind
    else x

def skipGaps (x : Lexer) : Lexer := skipGapsIn false x.cursor.rest x

def endAll (x : Lexer) : Step :=
  match (x.unwind (-1)).dropCandidate with
  | .error f => .error f
  | .ok x => .ok { x with allowsKey := false }

def documentMark (t : Token) (x : Lexer) : Step :=
  match x.endAll with
  | .error f => .error f
  | .ok x => .ok ((x.forward 3).push t)

def directive (x : Lexer) : Step :=
  match x.endAll with
  | .error f => .error f
  | .ok x =>
    let line := x.cursor.line
    match readDirective (line.drop 1) with
    | .error f => .error f
    | .ok (d, left) => .ok ((x.forward (line.length - left.length)).push (.directive d))

def openBracket (t : Token) (x : Lexer) : Step :=
  match x.saveCandidate with
  | .error f => .error f
  | .ok x => .ok ({ x.forward 1 with depth := x.depth + 1, allowsKey := true }.push t)

def closeBracket (t : Token) (x : Lexer) : Step :=
  match x.dropCandidate with
  | .error f => .error f
  | .ok x =>
    if x.depth == 0 then .error .malformed
    else .ok ({ x.forward 1 with depth := x.depth - 1, allowsKey := false }.push t)

def flowEntry (x : Lexer) : Step :=
  match x.dropCandidate with
  | .error f => .error f
  | .ok x => .ok ({ x.forward 1 with allowsKey := true }.push .flowEntry)

def blockMark (opening t : Token) (x : Lexer) : Step :=
  let inBrackets := x.depth != 0
  if !inBrackets && !x.allowsKey then .error .malformed
  else
    let x := if inBrackets then x else ((x.opens x.cursor.column).map (·.push opening)).getD x
    match x.dropCandidate with
    | .error f => .error f
    | .ok x =>
      .ok ({ x.forward 1 with allowsKey := t == Token.blockEntry || !inBrackets }.push t)

/-- A colon. It makes the candidate a key; without one it belongs to a key with a mark of its own. -/
def colon (x : Lexer) : Step :=
  match x.candidate? with
  | some k =>
    let x := { x with candidates := x.candidates.filter (·.1 != x.depth) }
    let x := x.insert k.number .key
    let x := if x.depth != 0 then x
      else ((x.opens k.column).map (·.insert k.number .blockMappingStart)).getD x
    .ok ({ x.forward 1 with allowsKey := false }.push .value)
  | none => x.blockMark .blockMappingStart .value

/-- A token that may be a key and behind which none starts. It is read at a cursor, with the number of its
characters. -/
def atom (read : Cursor → Except Fault (Token × Nat)) (x : Lexer) : Step :=
  match x.saveCandidate with
  | .error f => .error f
  | .ok x => match read x.cursor with
    | .error f => .error f
    | .ok (t, count) => .ok ({ x.forward count with allowsKey := false }.push t)

def readReference (make : String → Token) (c : Cursor) : Except Fault (Token × Nat) :=
  match readNodeName (c.rest.drop 1) with
  | .error f => .error f
  | .ok (name, _) => .ok (make name, name.length + 1)

def readSignedTag (c : Cursor) : Except Fault (Token × Nat) :=
  let line := c.line
  match readTag (line.drop 1) with
  | .error f => .error f
  | .ok (t, left) => .ok (t, line.length - left.length)

def readQuotedToken (quote : Char) (c : Cursor) : Except Fault (Token × Nat) :=
  match readQuoted quote [] 1 (.line []) (c.rest.drop 1) with
  | .error f => .error f
  | .ok (text, count) => .ok (.scalar text false, count)

def plain (x : Lexer) : Step :=
  match x.saveCandidate with
  | .error f => .error f
  | .ok x =>
    let p := readPlain x.size (x.depth != 0) x.indent x.cursor
    .ok ({ x with cursor := p.cursor, allowsKey := p.crossed }.push (.scalar (p.text.map .char) true))

def block (isFolded : Bool) (x : Lexer) : Step :=
  match x.dropCandidate with
  | .error f => .error f
  | .ok x =>
    let s := x.cursor.rest
    match readBlock isFolded x.indent (s.drop 1) with
    | .error f => .error f
    | .ok (text, left) =>
      .ok ({ x.forward (s.length - left.length) with allowsKey := true }.push
        (.scalar (text.map .char) false))

/-- Whether a plain scalar may start with a character, given what comes behind it. -/
def startsPlain (inBrackets : Bool) (c : Char) (rest : List Char) : Bool :=
  !(isGap c || "-?:,[]\x7b\x7d#&*!|>'\"%@\x60".toList.contains c)
    || !gapOrEnd rest && (c == '-' || !inBrackets && (c == '?' || c == ':'))

def token (x : Lexer) (c : Char) (rest : List Char) : Step :=
  let inBrackets := x.depth != 0
  let atStart := x.cursor.column == 0
  if c == '%' && atStart then x.directive
  else if c == '-' && atStart && isSeparator (c :: rest) then x.documentMark .documentStart
  else if c == '.' && atStart && isSeparator (c :: rest) then x.documentMark .documentEnd
  else if c == '[' then x.openBracket .flowSequenceStart
  else if c == '\x7b' then x.openBracket .flowMappingStart
  else if c == ']' then x.closeBracket .flowSequenceEnd
  else if c == '\x7d' then x.closeBracket .flowMappingEnd
  else if c == ',' then x.flowEntry
  else if c == '-' && gapOrEnd rest then x.blockMark .blockSequenceStart .blockEntry
  else if c == '?' && (inBrackets || gapOrEnd rest) then x.blockMark .blockMappingStart .key
  else if c == ':' && (inBrackets || gapOrEnd rest) then x.colon
  else if c == '*' then x.atom (readReference .reference)
  else if c == '&' then x.atom (readReference .anchor)
  else if c == '!' then x.atom readSignedTag
  else if c == '|' && !inBrackets then x.block false
  else if c == '>' && !inBrackets then x.block true
  else if c == '\'' || c == '"' then x.atom (readQuotedToken c)
  else if startsPlain inBrackets c rest then x.plain
  else .error .malformed

def advance (x : Lexer) : Except Fault (Lexer × Bool) :=
  match x.skipGaps.dropStale with
  | .error f => .error f
  | .ok x =>
    let x := x.unwind x.cursor.column
    match x.cursor.rest with
    | [] => x.endAll.map (·, false)
    | c :: rest => (x.token c rest).map (·, true)

/-- Read all tokens; each but the end reads a character, which `fuel` counts. A fault stands behind the tokens
that were settled before. -/
def run : Nat → Lexer → List Token
  | 0, x => x.tokens.reverse ++ [.broken .malformed]
  | fuel + 1, x => match x.advance with
    | .error f => x.tokens.reverse.take x.settledCount ++ [.broken f]
    | .ok (x, true) => run fuel x
    | .ok (x, false) => x.tokens.reverse

end Lexer

def tokens (s : List Char) : List Token :=
  if s.all isAllowed then
    let start : Cursor := ⟨s, 0, 0, 0⟩
    let start := if s.head? == some '\uFEFF' then start.next else start
    Lexer.run (s.length + 1) { cursor := start, size := s.length }
  else [.broken .malformed]

end TypedClient.Yaml
