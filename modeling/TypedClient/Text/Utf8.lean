import TypedClient.Text.Quoted

set_option autoImplicit false

namespace TypedClient.Text

inductive Utf8Breach where
  | start
  | continuation
  | truncated
  deriving DecidableEq, Repr

def Utf8Breach.words : Utf8Breach → String
  | .start => "invalid start byte"
  | .continuation => "invalid continuation byte"
  | .truncated => "unexpected end of data"

/-- Bytes that are not UTF-8, with the position of the first of them. -/
structure Utf8Fault where
  position : Nat
  bytes : List UInt8
  breach : Utf8Breach
  deriving DecidableEq, Repr

def Utf8Fault.message (f : Utf8Fault) : String :=
  let place := match f.bytes with
    | [b] => "byte 0x" ++ String.ofList (hexDigits 2 b.toNat) ++ " in position " ++ toString f.position
    | bs => "bytes in position " ++ toString f.position ++ "-" ++ toString (f.position + bs.length - 1)
  "'utf-8' codec can't decode " ++ place ++ ": " ++ f.breach.words

/-- The bounds of the byte behind a first byte, and the number of bytes behind it in all; nothing where no
character starts with that byte. -/
def utf8Lead? (first : UInt8) : Option (UInt8 × UInt8 × Nat) :=
  if first < 0x80 then some (0x80, 0xBF, 0)
  else if first < 0xC2 then none
  else if first < 0xE0 then some (0x80, 0xBF, 1)
  else if first = 0xE0 then some (0xA0, 0xBF, 2)
  else if first = 0xED then some (0x80, 0x9F, 2)
  else if first < 0xF0 then some (0x80, 0xBF, 2)
  else if first = 0xF0 then some (0x90, 0xBF, 3)
  else if first < 0xF4 then some (0x80, 0xBF, 3)
  else if first = 0xF4 then some (0x80, 0x8F, 3)
  else none

/-- The first breach among bytes. `seen` holds the bytes of the character begun, last first; `missing` more
have to follow, the next of them between `low` and `high`. -/
def utf8Fault? (position : Nat) (seen : List UInt8) (missing : Nat) (low high : UInt8) :
    List UInt8 → Option Utf8Fault
  | [] => if missing = 0 then none else some ⟨position, seen.reverse, .truncated⟩
  | b :: rest =>
    match missing with
    | 0 => match utf8Lead? b with
      | none => some ⟨position, [b], .start⟩
      | some (low, high, 0) => utf8Fault? (position + 1) [] 0 low high rest
      | some (low, high, missing) => utf8Fault? position [b] missing low high rest
    | missing + 1 =>
      if b < low || high < b then some ⟨position, seen.reverse, .continuation⟩
      else if missing = 0 then utf8Fault? (position + seen.length + 1) [] 0 low high rest
      else utf8Fault? position (b :: seen) missing 0x80 0xBF rest

def ofUtf8 (bytes : ByteArray) : Except Utf8Fault String :=
  match String.fromUTF8? bytes with
  | some s => .ok s
  | none => .error ((utf8Fault? 0 [] 0 0x80 0xBF bytes.toList).getD ⟨0, [], .truncated⟩)

/-- Halves of pairs in a text, with the position of the first of them. -/
structure EncodingFault where
  position : Nat
  halves : List Nat
  deriving DecidableEq, Repr

def EncodingFault.message (f : EncodingFault) : String :=
  let place := match f.halves with
    | [half] => "character '\\u" ++ String.ofList (hexDigits 4 half) ++ "' in position " ++ toString f.position
    | halves =>
      "characters in position " ++ toString f.position ++ "-" ++ toString (f.position + halves.length - 1)
  "'utf-8' codec can't encode " ++ place ++ ": surrogates not allowed"

/-- The first place at which a text has no encoding. -/
def encodingFault? (t : Text) : Option EncodingFault :=
  match t.dropWhile (·.isChar) with
  | [] => none
  | rest => some ⟨(t.takeWhile (·.isChar)).length, (rest.takeWhile (! ·.isChar)).map (·.code)⟩

/-- One form of line end: a carriage return, with or without a line feed behind it, is a line feed. -/
def unifyLineEnds : List Char → List Char
  | '\r' :: '\n' :: rest => '\n' :: unifyLineEnds rest
  | '\r' :: rest => '\n' :: unifyLineEnds rest
  | c :: rest => c :: unifyLineEnds rest
  | [] => []

end TypedClient.Text
