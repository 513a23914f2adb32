import TypedClient.Text.Quoted

set_option autoImplicit false

namespace TypedClient.Json

/-- Which characters a written string may hold as they are. -/
inductive Charset where
  | ascii
  | full
  deriving DecidableEq

def Charset.admits (set : Charset) (l : Letter) : Bool :=
  l != .char '"' && l != .char '\\' && match set with
    | .ascii => 0x20 ≤ l.code && l.code ≤ 0x7E
    | .full => 0x20 ≤ l.code

def unitEscape (unit : Nat) : List Char := '\\' :: 'u' :: Text.hexDigits 4 unit

/-- The escapes of the one or two 16-bit units of a code point. -/
def unitEscapes (code : Nat) : List Char :=
  if code < 0x10000 then unitEscape code
  else unitEscape (0xD800 + (code - 0x10000) / 0x400) ++ unitEscape (0xDC00 + (code - 0x10000) % 0x400)

def escape : Letter → List Char
  | .char '"' => ['\\', '"']
  | .char '\\' => ['\\', '\\']
  | .char '\n' => ['\\', 'n']
  | .char '\r' => ['\\', 'r']
  | .char '\t' => ['\\', 't']
  | .char '\x0c' => ['\\', 'f']
  | .char '\x08' => ['\\', 'b']
  | l => unitEscapes l.code

def writeLetter (set : Charset) (l : Letter) : Text := if set.admits l then [l] else (escape l).map .char

def quoteWith (set : Charset) (t : Text) : Text := .char '"' :: t.flatMap (writeLetter set) ++ [.char '"']

def writeAscii (l : Letter) : List Char := if Charset.ascii.admits l then l.char?.toList else escape l

/-- A text in its written form in ASCII, with the quotes. -/
def quote (t : Text) : String := String.ofList ('"' :: t.flatMap writeAscii ++ ['"'])

end TypedClient.Json
