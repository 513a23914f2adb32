import TypedClient.Text.Casing

set_option autoImplicit false

namespace TypedClient.Text

def irregularPlurals : List (String × String) :=
  [("person", "people"), ("child", "children"), ("man", "men"), ("woman", "women"), ("mouse", "mice"),
   ("goose", "geese"), ("tooth", "teeth"), ("foot", "feet"), ("datum", "data"), ("index", "indices"),
   ("matrix", "matrices"), ("vertex", "vertices"), ("axis", "axes"), ("crisis", "crises"),
   ("analysis", "analyses"), ("status", "statuses"), ("address", "addresses")]

def plural (word : String) : String :=
  let name := word.toList
  let low := name.flatMap lowerChar
  let ends := fun (ending : String) => ending.toList.isSuffixOf low
  match irregularPlurals.lookup (String.ofList low) with
  | some p => if name.head?.any Char.isUpper then capitalize p else p
  | none =>
    if name.isEmpty then ""
    else if ["sh", "ch", "x", "z", "ss", "s"].any ends then word ++ "es"
    else if ends "y" && 1 < name.length
        && !(low.reverse[1]?.any fun c => "aeiou".toList.contains c) then
      String.ofList name.dropLast ++ "ies"
    else if ends "fe" then String.ofList name.dropLast.dropLast ++ "ves"
    else if ends "f" && !ends "ff" then String.ofList name.dropLast ++ "ves"
    else word ++ "s"

end TypedClient.Text
