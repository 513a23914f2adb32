import TypedClient.Text.Casing

set_option autoImplicit false

namespace TypedClient.Text

/-- Put a low line before the last capital of each run of at least two that a small letter follows. -/
def cutCapitalRuns : List Char → List Char
  | a :: b :: c :: rest =>
    if a.isUpper && b.isUpper && c.isLower then a :: '_' :: b :: c :: cutCapitalRuns rest
    else a :: cutCapitalRuns (b :: c :: rest)
  | s => s

def cutBetween (test : Char → Char → Bool) : List Char → List Char
  | a :: b :: rest =>
    if test a b then a :: '_' :: cutBetween test (b :: rest) else a :: cutBetween test (b :: rest)
  | s => s

/-- A name as lower-case words joined by low lines: `findMany` becomes `find_many`. -/
def snakeCase (name : String) : String :=
  let cut := cutCapitalRuns name.toList
  let cut := cutBetween (fun a b => a.isLower && b.isUpper) cut
  let cut := cutBetween (fun a b => a.isDigit && b.isUpper) cut
  let cut := cutBetween (fun a b => a.isLower && b.isDigit) cut
  lower (String.ofList (cut.map fun c => if c == '-' then '_' else c))

end TypedClient.Text
