import TypedClient.Yaml.Node

set_option autoImplicit false

namespace TypedClient.Yaml

abbrev Nodes := Array Node

namespace Nodes

def kindAt (nodes : Nodes) (number : Nat) : Kind := (nodes.getD number .nothing).kind

def entriesAt (nodes : Nodes) (number : Nat) : List (Nat × Nat) :=
  match (nodes.getD number .nothing).content with
  | .mapping entries => entries
  | _ => []

def withEntries (nodes : Nodes) (number : Nat) (entries : List (Nat × Nat)) : Nodes :=
  nodes.modify number fun n => { n with content := .mapping entries }

def settleKey (nodes : Nodes) (entry : Nat × Nat) : Nodes :=
  if nodes.kindAt entry.1 = .value then nodes.modify entry.1 fun n => { n with kind := .str } else nodes

/-- Take into the map with a number what is merged into it; `merged` are entries taken before. `fuel` bounds the
number of keys that tell of merged maps. -/
def flatten : Nat → Nodes → Nat → List (Nat × Nat) → Except Fault Nodes
  | 0, _, _, _ => .error .tooDeep
  | fuel + 1, nodes, number, merged =>
    let entries := nodes.entriesAt number
    let own := entries.takeWhile fun e => nodes.kindAt e.1 ≠ .merge
    let nodes := own.foldl settleKey nodes
    match entries.drop own.length with
    | [] => .ok (if merged.isEmpty then nodes else nodes.withEntries number (merged ++ entries))
    | (_, value) :: rest =>
      let nodes := nodes.withEntries number (own ++ rest)
      -- the entries of a merged map, in front of those of maps that come before it
      let takeFrom (found : Nodes × List (Nat × Nat)) (source : Nat) :
          Except Fault (Nodes × List (Nat × Nat)) :=
        match (found.1.getD source .nothing).content with
        | .mapping _ => match flatten fuel found.1 source [] with
          | .error f => .error f
          | .ok nodes => .ok (nodes, nodes.entriesAt source ++ found.2)
        | _ => .error .malformed
      let found := match (nodes.getD value .nothing).content with
        | .mapping _ => takeFrom (nodes, []) value
        | .sequence items => items.foldlM takeFrom (nodes, [])
        | .scalar _ => .error .malformed
      match found with
      | .error f => .error f
      | .ok (nodes, more) => flatten fuel nodes number (merged ++ more)

def mergeCount (nodes : Nodes) : Nat :=
  nodes.foldl (fun n node => match node.content with
    | .mapping entries => n + (entries.filter fun e => nodes.kindAt e.1 = .merge).length
    | _ => n) 0

end Nodes

end TypedClient.Yaml
