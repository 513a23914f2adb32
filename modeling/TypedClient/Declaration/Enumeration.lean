import TypedClient.Schema.Basic
import TypedClient.Text.Identifier
import TypedClient.TypeExpr.Printer

set_option autoImplicit false

namespace TypedClient.Enumeration

def members (e : Enumeration) : List (Text × Text) := e.values.map fun v => (v, v)

def union (e : Enumeration) : TypeExpr := .unionOf (e.members.map fun m => .literal m.2)

def memberKey (name : Text) : Text := if Text.isIdentifier name then name else Json.quote name

def memberText (m : Text × Text) : Text := memberKey m.1 ++ ": " ++ Json.quote m.2

def objectText (e : Enumeration) : Text :=
  "\x7b\n" ++ Text.indent 2 (Text.intercalate ",\n" (e.members.map memberText)) ++ "\n\x7d"

def tsText (e : Enumeration) : Text :=
  "export declare const " ++ e.name ++ ": " ++ e.objectText ++ ";\n\nexport declare type " ++ e.name
    ++ " = (typeof " ++ e.name ++ ")[keyof typeof " ++ e.name ++ "]\n"

def jsText (e : Enumeration) : Text :=
  "exports." ++ e.name ++ " = makeEnum(" ++ e.objectText ++ ");"

end TypedClient.Enumeration
