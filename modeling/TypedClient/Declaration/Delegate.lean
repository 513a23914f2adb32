import TypedClient.Naming
import TypedClient.Schema.Lookup
import TypedClient.Text.Casing
import TypedClient.Text.Comment

set_option autoImplicit false

namespace TypedClient

structure Wording where
  one : String
  many : String
  oneVar : String
  manyVar : String
  args : String
  method : String
  scalar : Option String

def Wording.selectOnly (w : Wording) : String :=
  match w.scalar with
  | none => ""
  | some field =>
    "\n// Only select the `" ++ field ++ "`\nconst " ++ w.oneVar ++ "With" ++ Text.capitalize field
      ++ "Only = await " ++ w.method ++ "(\x7b select: \x7b " ++ field ++ ": true \x7d \x7d)\n"

def Wording.lines (w : Wording) : Action → List String
  | .findOne =>
    ["Find zero or one " ++ w.one ++ ".",
      "@param \x7b" ++ w.args ++ "\x7d args - Arguments to find a " ++ w.one,
      "@example",
      "// Get one " ++ w.one,
      "const " ++ w.oneVar ++ " = await " ++ w.method ++ "(\x7b",
      "  where: \x7b",
      "    // ... provide filter here",
      "  \x7d",
      "\x7d)"]
  | .findMany =>
    ["Find zero or more " ++ w.many ++ ".",
      "@param \x7b" ++ w.args ++ "=\x7d args - Arguments to filter and select certain fields only.",
      "@example",
      "// Get all " ++ w.many,
      "const " ++ w.manyVar ++ " = await " ++ w.method ++ "()",
      "",
      "// Get first 10 " ++ w.many,
      "const " ++ w.manyVar ++ " = await " ++ w.method ++ "(\x7b take: 10 \x7d)",
      w.selectOnly]
  | .create =>
    ["Create a " ++ w.one ++ ".",
      "@param \x7b" ++ w.args ++ "\x7d args - Arguments to create a " ++ w.one ++ ".",
      "@example",
      "// Create one " ++ w.one,
      "const " ++ w.oneVar ++ " = await " ++ w.method ++ "(\x7b",
      "  data: \x7b",
      "    // ... data to create a " ++ w.one,
      "  \x7d",
      "\x7d)",
      ""]
  | .update =>
    ["Update one " ++ w.one ++ ".",
      "@param \x7b" ++ w.args ++ "\x7d args - Arguments to update one " ++ w.one ++ ".",
      "@example",
      "// Update one " ++ w.one,
      "const " ++ w.oneVar ++ " = await " ++ w.method ++ "(\x7b",
      "  where: \x7b",
      "    // ... provide filter here",
      "  \x7d,",
      "  data: \x7b",
      "    // ... provide data here",
      "  \x7d",
      "\x7d)",
      ""]
  | .updateMany =>
    ["Update zero or more " ++ w.many ++ ".",
      "@param \x7b" ++ w.args ++ "\x7d args - Arguments to update one or more rows.",
      "@example",
      "// Update many " ++ w.many,
      "const \x7b count \x7d = await " ++ w.method ++ "(\x7b",
      "  where: \x7b",
      "    // ... provide filter here",
      "  \x7d,",
      "  data: \x7b",
      "    // ... provide data here",
      "  \x7d",
      "\x7d)",
      ""]
  | .upsert =>
    ["Create or update one " ++ w.one ++ ".",
      "@param \x7b" ++ w.args ++ "\x7d args - Arguments to update or create a " ++ w.one ++ ".",
      "@example",
      "// Update or create a " ++ w.one,
      "const " ++ w.oneVar ++ " = await " ++ w.method ++ "(\x7b",
      "  create: \x7b",
      "    // ... data to create a " ++ w.one,
      "  \x7d,",
      "  update: \x7b",
      "    // ... in case it already exists, update",
      "  \x7d,",
      "  where: \x7b",
      "    // ... the filter for the " ++ w.one ++ " we want to update",
      "  \x7d",
      "\x7d)"]
  | .delete =>
    ["Delete a " ++ w.one ++ ".",
      "@param \x7b" ++ w.args ++ "\x7d args - Arguments to delete one " ++ w.one ++ ".",
      "@example",
      "// Delete one " ++ w.one,
      "const " ++ w.oneVar ++ " = await " ++ w.method ++ "(\x7b",
      "  where: \x7b",
      "    // ... filter to delete one " ++ w.one,
      "  \x7d",
      "\x7d)",
      ""]
  | .deleteMany =>
    ["Delete zero or more " ++ w.many ++ ".",
      "@param \x7b" ++ w.args ++ "\x7d args - Arguments to filter " ++ w.many ++ " to delete.",
      "@example",
      "// Delete a few " ++ w.many,
      "const \x7b count \x7d = await " ++ w.method ++ "(\x7b",
      "  where: \x7b",
      "    // ... provide filter here",
      "  \x7d",
      "\x7d)",
      ""]
  | .aggregate => []

def methodWording (action : Action) (m : Mapping) (e : Entity) : Wording where
  one := Text.capitalize m.entity
  many := Text.capitalize m.plural
  oneVar := Text.uncapitalize m.entity
  manyVar := Text.uncapitalize m.plural
  args := argsName e.name (some action)
  method := "client." ++ Text.uncapitalize m.entity ++ "." ++ action.label
  scalar := (e.fields.find? (·.kind == .scalar)).map (·.name)

def withoutFinalBreaks (t : Text) : Text := (t.reverse.dropWhile (· == .char '\n')).reverse

def methodDoc (action : Action) (m : Mapping) (e : Entity) : Text :=
  withoutFinalBreaks (Text.ofLines ((methodWording action m e).lines action))

def Action.isMethod (action : Action) : Bool := action != .aggregate

structure DelegateMethod where
  action : Action
  argsName : String
  argsOptional : Bool
  returnType : String
  doc : Text
  deriving DecidableEq, Repr

def DelegateMethod.text (m : DelegateMethod) : Text :=
  Text.docBlock m.doc ++ "\n" ++ m.action.label ++ "<T extends " ++ m.argsName ++ ">(\n  args"
    ++ (if m.argsOptional then "?" else "") ++ ": Subset<T, " ++ m.argsName ++ ">\n): " ++ m.returnType

structure Delegate where
  entity : String
  methods : List DelegateMethod
  countArgs : String
  deriving DecidableEq, Repr

namespace Delegate

def name (d : Delegate) : String := delegateName d.entity

def methodNames (d : Delegate) : List String := d.methods.map (·.action.label) ++ ["count"]

def countText (d : Delegate) : Text :=
  "/**\n * Count the number of " ++ d.entity ++ " records matching the filter.\n**/\ncount(args?: Omit<"
    ++ d.countArgs ++ ", 'select' | 'include'>): Promise<number>"

def text (d : Delegate) : Text :=
  "export interface " ++ d.name ++ " \x7b\n"
    ++ Text.indent 2 (Text.joinLines (d.methods.map (·.text) ++ [d.countText])) ++ "\n\x7d\n"

end Delegate

namespace Entity

def delegateMethod (e : Entity) (m : Mapping) (action : Action) : DelegateMethod where
  action := action
  argsName := argsName e.name (some action)
  argsOptional := action == .findMany
  returnType := returnType e.name action none
  doc := methodDoc action m e

/-- The argument type for counting: that of listing, where listing is supported. -/
def countArgs (e : Entity) (m : Mapping) : String :=
  argsName e.name (if (m.fieldFor .findMany).isSome then some .findMany else none)

end Entity

namespace Document

def delegateMethods (d : Document) (e : Entity) (m : Mapping) :
    List (Action × Text) → Except Inconsistency (List DelegateMethod)
  | [] => .ok []
  | (action, field) :: rest =>
    match d.rootField? field with
    | none => .error (.noRootField action e.name field)
    | some _ => (d.delegateMethods e m rest).map fun ms => e.delegateMethod m action :: ms

def delegate (d : Document) (e : Entity) : Except Inconsistency (Option Delegate) :=
  match d.mapping? e.name with
  | none => .ok none
  | some m =>
    if m.served.isEmpty then .ok none
    else
      (d.delegateMethods e m (m.served.filter (·.1.isMethod))).map fun methods =>
        some ⟨e.name, methods, e.countArgs m⟩

end Document

end TypedClient
