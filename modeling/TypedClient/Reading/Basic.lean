import TypedClient.Data.Shown
import TypedClient.Reading.Issue
import TypedClient.Text.Casing

set_option autoImplicit false

/-!
# Reading values

Reading plain data as a value of a type gives the value or all its issues. Parts are read independently of
one another, so that the issues of every part are reported, in the order of the parts.
-/

namespace TypedClient

/-- A value read from data, or what is wrong with the data. -/
inductive Reading (α : Type) where
  | ok (value : α)
  | bad (issues : List Issue)

/-- A key of an object: the spelling in documents and the one that is accepted beside it. -/
structure Key where
  usual : String
  name : String
  deriving DecidableEq, Repr

def Key.plain (name : String) : Key := ⟨name, name⟩

namespace Reading

variable {α β : Type}

def apply : Reading (α → β) → Reading α → Reading β
  | .ok f, .ok a => .ok (f a)
  | .ok _, .bad issues => .bad issues
  | .bad issues, .ok _ => .bad issues
  | .bad first, .bad second => .bad (first ++ second)

instance : Applicative Reading where
  pure := .ok
  seq f a := apply f (a ())

def fail (cause : Cause) : Reading α := .bad [⟨[], cause⟩]

def within (step : Step) : Reading α → Reading α
  | .ok a => .ok a
  | .bad issues => .bad (issues.map fun i => ⟨step :: i.path, i.cause⟩)

def guarded (rule : α → Option Breach) : Reading α → Reading α
  | .ok a => match rule a with
    | none => .ok a
    | some breach => fail (.breach breach)
  | .bad issues => .bad issues

def toOption : Reading α → Option α
  | .ok a => some a
  | .bad _ => none

/-! ## Texts, truth values and kinds -/

def textOf : Data → Except Cause String
  | .scalar (.text t) => t.string?.elim (.error .notUnicode) .ok
  | .scalar (.bytes b) => (String.fromUTF8? ⟨b.toArray⟩).elim (.error .notUnicode) .ok
  | _ => .error .notText

def ruledText (rule : String → Bool) (cause : Cause) (d : Data) : Reading String :=
  match textOf d with
  | .ok s => if rule s then .ok s else fail cause
  | .error cause => fail cause

def text : Data → Reading Text
  | .scalar (.text t) => .ok t
  | d => Text.ofString <$> ruledText (fun _ => true) .notText d

def nonEmptyText : Data → Reading String := ruledText (! ·.isEmpty) .emptyText

def boolOfWord? (word : String) : Option Bool :=
  let w := String.ofList (word.toList.map Char.toLower)
  if ["1", "true", "t", "yes", "y", "on"].contains w then some true
  else if ["0", "false", "f", "no", "n", "off"].contains w then some false
  else none

def boolOfInt? (n : Int) : Option Bool :=
  if n = 1 then some true else if n = 0 then some false else none

def wordLimit : Nat := 9223372036854775808

def isWord (n : Int) : Bool := -(wordLimit : Int) ≤ n && n < wordLimit

def inWordRange (n : Int) : Bool := n.natAbs < wordLimit

def bool (d : Data) : Reading Bool :=
  let known (b : Option Bool) : Reading Bool := b.elim (fail .unreadableBool) .ok
  match d with
  | .scalar (.bool b) => .ok b
  | .scalar (.text t) => t.string?.elim (fail .notUnicode) fun s => known (boolOfWord? s)
  | .scalar (.bytes b) => known ((String.fromUTF8? ⟨b.toArray⟩).bind boolOfWord?)
  | .scalar (.int n) => if isWord n then known (boolOfInt? n) else fail .notBool
  | .scalar (.float x) => match Decimal.whole? x with
    | some n => if inWordRange n then known (boolOfInt? n) else fail .notBool
    | none => fail .notBool
  | _ => fail .notBool

def kind (d : Data) : Reading Kind :=
  match d, textOf d with
  | .scalar (.text _), .error cause => fail cause
  | _, text => match text.toOption.bind Kind.ofLabel? with
    | some k => .ok k
    | none => fail .notKind

/-! ## Composite values -/

def orNull (read : Data → Reading α) : Data → Reading (Option α)
  | .scalar .null => .ok none
  | d => some <$> read d

def items (read : Data → Reading α) : Nat → List Data → Reading (List α)
  | _, [] => .ok []
  | n, d :: rest => List.cons <$> within (.index n) (read d) <*> items read (n + 1) rest

def list (read : Data → Reading α) : Data → Reading (List α)
  | .list ds => items read 0 ds
  | .set members => items read 0 (members.map .scalar)
  | _ => fail .notList

def nonEmptyList (read : Data → Reading α) (d : Data) : Reading (List α) :=
  match list read d with
  | .ok [] => fail .emptyList
  | r => r

def object (sort : String) (read : List (Scalar × Data) → Reading α) : Data → Reading α
  | .map entries => read entries
  | _ => fail (.notObject sort)

/-- The entry of a key, with the spelling it has; the first spelling comes first. -/
def entry? (entries : List (Scalar × Data)) (key : Key) : Option (String × Data) :=
  match Data.get? entries key.usual with
  | some d => some (key.usual, d)
  | none => (Data.get? entries key.name).map fun d => (key.name, d)

def required (key : Key) (read : Data → Reading α) (entries : List (Scalar × Data)) : Reading α :=
  match entry? entries key with
  | some (spelling, d) => within (.key spelling) (read d)
  | none => within (.key key.usual) (fail .missing)

def optional (key : Key) (default : α) (read : Data → Reading α) (entries : List (Scalar × Data)) :
    Reading α :=
  match entry? entries key with
  | some (spelling, d) => within (.key spelling) (read d)
  | none => .ok default

def strayKey? (keys : List String) : Scalar → Option Issue
  | .text t => t.string?.bind fun s => if keys.contains s then none else some ⟨[.key s], .unknownKey⟩
  | .int n => some ⟨[.index n], .oddKey⟩
  | .bool b => some ⟨[.index (if b then 1 else 0)], .oddKey⟩
  | k => some ⟨[.key k.shown], .oddKey⟩

def onlyKeys (keys : List String) (entries : List (Scalar × Data)) : Reading Unit :=
  match entries.filterMap fun e => strayKey? keys e.1 with
  | [] => .ok ()
  | issues => .bad issues

/-- Read an object of a sort that has no other keys than the given ones. A key with halves of pairs cannot be
told in an issue, so it is the only thing that is wrong. -/
def closedObject (sort : String) (keys : List String) (read : List (Scalar × Data) → Reading α) :
    Data → Reading α :=
  object sort fun entries =>
    if entries.any (fun e => e.1.isBroken) then fail .notUnicode
    else (fun a (_ : Unit) => a) <$> read entries <*> onlyKeys keys entries

end Reading

end TypedClient
