import TypedClient.CommandLine.Flag
import TypedClient.Text.DecimalDigit
import TypedClient.Text.Quoted

set_option autoImplicit false

namespace TypedClient.CommandLine

/-- Why a command line cannot be used, and what else keeps the program from its work. -/
inductive Stop where
  | help
  | version
  | ambiguous (word : String) (names : List String)
  | noValue (flag : Flag)
  | needlessValue (flag : Flag) (value : String)
  /-- Two dashes, which never count as a value, are attached to a flag as its value. -/
  | lostValue
  | noSchema
  | unknown (words : List String)
  deriving DecidableEq, Repr

def Stop.message : Stop → String
  | .help | .version => ""
  | .ambiguous word names => "ambiguous option: " ++ word ++ " could match " ++ ", ".intercalate names
  | .noValue f => "argument " ++ f.title ++ ": expected one argument"
  | .needlessValue f value =>
    "argument " ++ f.title ++ ": ignored explicit argument " ++ Text.quoted value
  | .lostValue => "not enough values to unpack (expected 1, got 0)"
  | .noSchema => "the following arguments are required: " ++ Flag.schema.title
  | .unknown words => "unrecognized arguments: " ++ " ".intercalate words

inductive Word where
  /-- A flag, whether its short name is used, and what is attached to it. -/
  | flag (flag : Flag) (isShort : Bool) (attached : Option (List Char))
  | stranger (text : String)
  | text (text : String)
  | marker
  deriving DecidableEq, Repr

/-- Whether a text is a negative number, with or without a point. Digits of any script count, and a line end
may stand behind it. -/
def isNegativeNumber (s : List Char) : Bool :=
  match if s.getLast? == some '\n' then s.dropLast else s with
  | '-' :: rest =>
    match rest.takeWhile Text.isDecimalDigit, rest.dropWhile Text.isDecimalDigit with
    | digits, [] => !digits.isEmpty
    | _, '.' :: fraction => !fraction.isEmpty && fraction.all Text.isDecimalDigit
    | _, _ => false
  | _ => false

def isShortName (name : List Char) : Bool := name[1]? != some '-'

def cutAtSign (s : List Char) : List Char × Option (List Char) :=
  match s.dropWhile (· != '=') with
  | [] => (s, none)
  | _ :: value => (s.takeWhile (· != '='), some value)

def meanings (s : List Char) : List (String × Word) :=
  if isShortName s then
    Flag.named.filterMap fun (name, f) =>
      if name.toList == s.take 2 then some (name, .flag f true (some (s.drop 2)))
      else if s.isPrefixOf name.toList then some (name, .flag f (isShortName name.toList) none)
      else none
  else
    let (start, attached) := cutAtSign s
    Flag.named.filterMap fun (name, f) =>
      if start.isPrefixOf name.toList then some (name, .flag f (isShortName name.toList) attached) else none

def Word.ofText (word : String) : Except Stop Word :=
  let s := word.toList
  if s.head? != some '-' || s.length == 1 then .ok (.text word)
  else match Flag.ofName? word with
    | some f => .ok (.flag f (isShortName s) none)
    | none =>
      let (start, attached) := cutAtSign s
      match attached, Flag.ofName? (String.ofList start) with
      | some a, some f => .ok (.flag f (isShortName start) (some a))
      | _, _ => match meanings s with
        | [] => .ok (if isNegativeNumber s || s.contains ' ' then .text word else .stranger word)
        | [(_, w)] => .ok w
        | several => .error (.ambiguous word (several.map (·.1)))

def classify : List String → Except Stop (List Word)
  | [] => .ok []
  | "--" :: rest => .ok (.marker :: rest.map .text)
  | word :: rest => match Word.ofText word with
    | .error e => .error e
    | .ok w => match classify rest with
      | .error e => .error e
      | .ok ws => .ok (w :: ws)

/-- What stands at the end of a word with several flags. -/
inductive WordEnd where
  | nothing
  | value (flag : Flag) (text : String)
  | pending (flag : Flag)
  deriving DecidableEq, Repr

/-- A flag with what is attached to it: its value, or behind a short flag the letters of more of them. -/
def withTail (flag : Flag) (isShort : Bool) : List Char → Except Stop (List Flag × WordEnd)
  | [] => if flag.takesValue then .ok ([], .value flag "") else .error (.needlessValue flag "")
  | c :: rest =>
    let tail := String.ofList (c :: rest)
    if flag.takesValue then .ok ([], .value flag tail)
    else match if isShort then Flag.ofName? (String.ofList ['-', c]) else none with
      | none => .error (.needlessValue flag tail)
      | some next =>
        if rest.isEmpty then
          .ok (if next.takesValue then ([flag], .pending next) else ([flag, next], .nothing))
        else (withTail next true rest).map fun p => (flag :: p.1, p.2)

def flagsOf (flag : Flag) (isShort : Bool) : Option (List Char) → Except Stop (List Flag × WordEnd)
  | none => .ok (if flag.takesValue then ([], .pending flag) else ([flag], .nothing))
  | some attached => withTail flag isShort attached

end TypedClient.CommandLine
