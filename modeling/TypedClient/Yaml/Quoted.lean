import TypedClient.Text.Letter
import TypedClient.Yaml.Cursor
import TypedClient.Yaml.Fault

set_option autoImplicit false

namespace TypedClient.Yaml

def escaped? : Char → Option Char
  | '0' => some '\x00'
  | 'a' => some '\x07'
  | 'b' => some '\x08'
  | 't' | '\t' => some '\t'
  | 'n' => some '\n'
  | 'v' => some '\x0b'
  | 'f' => some '\x0c'
  | 'r' => some '\r'
  | 'e' => some '\x1b'
  | ' ' => some ' '
  | '"' => some '"'
  | '\\' => some '\\'
  | '/' => some '/'
  | 'N' => some '\x85'
  | '_' => some '\u00a0'
  | 'L' => some '\u2028'
  | 'P' => some '\u2029'
  | _ => none

/-- The number of digits behind a letter that writes a character by its number. -/
def escapeDigits? : Char → Option Nat
  | 'x' => some 2
  | 'u' => some 4
  | 'U' => some 8
  | _ => none

def letterOf (code : Nat) : Except Fault Letter :=
  if 0x10FFFF < code then .error (.noCharacter code) else .ok (.ofCode code)

/-- What a folded line end becomes: `first` is the first one, unless a backslash stood before it, and
`more` are those of the empty lines behind it, last first. -/
def folded (first : Option Char) (more : List Char) : List Char :=
  match first with
  | none => more.reverse
  | some '\n' => if more.isEmpty then [' '] else more.reverse
  | some c => c :: more.reverse

inductive InQuotes where
  | line (gaps : Text)
  | between (first : Option Char) (more : List Char)
  | escape
  | number (left value : Nat)
  | quote

/-- Read what stands between quotes, up to the closing one; `done` is what was read so far, last first, and
`count` the number of characters it took. The answer is the text and the number of all its characters. -/
def readQuoted (quote : Char) (done : Text) (count : Nat) (state : InQuotes) :
    List Char → Except Fault (Text × Nat)
  | [] => match state with
    | .quote => .ok (done.reverse, count)
    | _ => .error .malformed
  | c :: rest =>
    let behind := count + 1
    let inLine (done gaps : Text) : Except Fault (Text × Nat) :=
      let upToHere := gaps ++ done
      if c == ' ' || c == '\t' then readQuoted quote done behind (.line (c :: gaps)) rest
      else if isBreak c then
        if isSeparator rest then .error .malformed
        else readQuoted quote done behind (.between (some (breakValue c)) []) rest
      else if c == quote then
        if quote == '\'' then readQuoted quote upToHere behind .quote rest
        else .ok (upToHere.reverse, behind)
      else if c == '\\' && quote == '"' then readQuoted quote upToHere behind .escape rest
      else readQuoted quote (c :: upToHere) behind (.line []) rest
    match state with
    | .line gaps => inLine done gaps
    | .between first more =>
      if c == ' ' || c == '\t' then readQuoted quote done behind state rest
      else if isBreak c then
        if isSeparator rest then .error .malformed
        else readQuoted quote done behind (.between first (breakValue c :: more)) rest
      else inLine ((folded first more).reverse.map .char ++ done) []
    | .escape =>
      match escaped? c, escapeDigits? c with
      | some e, _ => readQuoted quote (e :: done) behind (.line []) rest
      | none, some n => readQuoted quote done behind (.number n 0) rest
      | none, none =>
        if isBreak c then
          if isSeparator rest then .error .malformed
          else readQuoted quote done behind (.between none []) rest
        else .error .malformed
    | .number left value =>
      match Json.hexValue? c with
      | none => .error .malformed
      | some n =>
        let value := 16 * value + n
        if left ≤ 1 then
          match letterOf value with
          | .error f => .error f
          | .ok e => readQuoted quote (e :: done) behind (.line []) rest
        else readQuoted quote done behind (.number (left - 1) value) rest
    | .quote =>
      if c == '\'' then readQuoted quote (c :: done) behind (.line []) rest
      else .ok (done.reverse, count)

end TypedClient.Yaml
