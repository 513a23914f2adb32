import TypedClient.Text.Lines

set_option autoImplicit false

namespace TypedClient

structure Passage where
  declares : List String := []
  exported : List String := []
  text : Text
  deriving DecidableEq, Repr

namespace Passage

def ofLines (declares : List String) (lines : List String) : Passage :=
  { declares := declares, text := Text.ofLines lines }

def joined (passages : List Passage) : Text := Text.intercalate "\n\n" (passages.map (·.text))

def declared (passages : List Passage) : List String := passages.flatMap (·.declares)

def exports (passages : List Passage) : List String := passages.flatMap (·.exported)

end Passage

end TypedClient
