import TypedClient.Yaml.Lexer
import TypedClient.Yaml.Merge
import TypedClient.Yaml.Scalar

set_option autoImplicit false

/-!
# The data of a YAML text

The value of a node. Collections are made empty and filled one after the other, in the order in which they are
met, so that of several faults the one nearest to the root is told. Of equal keys the first one keeps the
place and the last one gives the value. A value that holds itself is written out for a number of levels.
-/

namespace TypedClient.Yaml

/-- What a node becomes; parts are told by their nodes. -/
inductive Shape where
  | scalar (value : Scalar)
  | list (items : List Nat)
  | pairs (items : List (Nat × Nat))
  | map (entries : List (Scalar × Nat))
  | set (members : List Scalar)

def Kind.emptyShape? : Kind → Option Shape
  | seq => some (.list [])
  | orderedMap | pairs => some (.pairs [])
  | map => some (.map [])
  | set => some (.set [])
  | _ => none

structure Making where
  nodes : Nodes
  shapes : Array (Option Shape)
  /-- The collections that are still to be filled, the last one first. -/
  pending : List Nat := []

namespace Making

/-- The text of a node where a scalar is wanted: that of a map stands under the key for it. `fuel` bounds
the number of maps. -/
def textAt (nodes : Nodes) : Nat → Nat → Except Fault Text
  | 0, _ => .error .tooDeep
  | fuel + 1, number => match (nodes.getD number .nothing).content with
    | .scalar text => .ok text
    | .sequence _ => .error .malformed
    | .mapping entries => match entries.find? fun e => nodes.kindAt e.1 = .value with
      | some (_, value) => textAt nodes fuel value
      | none => .error .malformed

def scalarAt (nodes : Nodes) (number : Nat) : Except Fault Scalar :=
  let n := nodes.getD number .nothing
  if n.kind = .merge ∨ n.kind = .value ∨ n.kind = .other then .error .malformed
  else match textAt nodes (nodes.size + 1) number with
    | .error f => .error f
    | .ok text => match n.kind, n.content with
      | .timestamp, .mapping _ => .error (.collectionForMoment "list")
      | kind, _ => scalarOf kind text

def note (m : Making) (number : Nat) (shape : Shape) : Making :=
  { m with shapes := m.shapes.setIfInBounds number (some shape) }

def shapeOf (m : Making) (number : Nat) : Except Fault (Shape × Making) :=
  match m.shapes.getD number none with
  | some shape => .ok (shape, m)
  | none => match (m.nodes.kindAt number).emptyShape? with
    | some shape => .ok (shape, { m.note number shape with pending := number :: m.pending })
    | none => match scalarAt m.nodes number with
      | .error f => .error f
      | .ok s => .ok (.scalar s, m.note number (.scalar s))

def shapesOf (m : Making) : List Nat → Except Fault Making
  | [] => .ok m
  | number :: rest => match m.shapeOf number with
    | .error f => .error f
    | .ok (_, m) => m.shapesOf rest

/-- A key, and the node that it comes from where that matters: what is no number is equal to itself alone. All
that are written with the word for it are one. -/
abbrev Origin := Scalar × Option Nat

def keyOf (m : Making) (number : Nat) : Except Fault (Origin × Making) :=
  match m.shapeOf number with
  | .error f => .error f
  | .ok (.scalar (.float x), m) =>
    let word := match textAt m.nodes (m.nodes.size + 1) number with
      | .ok text => unsigned (floatText (text.string?.getD ""))
      | .error _ => []
    .ok ((.float x, if word == notANumber then none else some number), m)
  | .ok (.scalar s, m) => .ok ((s, none), m)
  | .ok _ => .error .malformed

def sameKey (a b : Origin) : Bool :=
  a.1.sameKey b.1 || match a.1, b.1 with
    | .float x, .float y => x.isNaN && y.isNaN && a.2 == b.2
    | _, _ => false

/-- Put an entry to others: a key that is there keeps its place and gets the new value. -/
def putEntry (entries : List (Origin × Nat)) (key : Origin) (value : Nat) : List (Origin × Nat) :=
  if entries.any (sameKey ·.1 key) then
    entries.map fun e => if sameKey e.1 key then (e.1, value) else e
  else entries ++ [(key, value)]

def entriesOf (m : Making) (done : List (Origin × Nat)) :
    List (Nat × Nat) → Except Fault (List (Origin × Nat) × Making)
  | [] => .ok (done, m)
  | (key, value) :: rest => match m.keyOf key with
    | .error f => .error f
    | .ok (k, m) => match m.shapeOf value with
      | .error f => .error f
      | .ok (_, m) => m.entriesOf (putEntry done k value) rest

def pairsOf (m : Making) : List Nat → Except Fault (List (Nat × Nat) × Making)
  | [] => .ok ([], m)
  | number :: rest => match m.nodes.entriesAt number with
    | [(key, value)] => match m.shapesOf [key, value] with
      | .error f => .error f
      | .ok m => match m.pairsOf rest with
        | .error f => .error f
        | .ok (pairs, m) => .ok ((key, value) :: pairs, m)
    | _ => .error .malformed

/-- Fill the collection that a node becomes. `fuel` bounds the number of merged maps. -/
def fill (fuel : Nat) (m : Making) (number : Nat) : Except Fault Making :=
  let n := m.nodes.getD number .nothing
  let entries (make : List (Origin × Nat) → Shape) : Except Fault Making :=
    match Nodes.flatten fuel m.nodes number [] with
    | .error f => .error f
    | .ok nodes => match ({ m with nodes }).entriesOf [] (nodes.entriesAt number) with
      | .error f => .error f
      | .ok (es, m) => .ok (m.note number (make es))
  match n.kind, n.content with
  | .seq, .sequence items => (m.shapesOf items).map (·.note number (.list items))
  | .orderedMap, .sequence items | .pairs, .sequence items =>
    (m.pairsOf items).map fun p => p.2.note number (.pairs p.1)
  | .map, .mapping _ => entries fun es => .map (es.map fun e => (e.1.1, e.2))
  | .set, .mapping _ => entries fun es => .set (es.map (·.1.1))
  | _, _ => .error .malformed

def fillAll (fuel : Nat) (m : Making) : List Nat → Except Fault Making
  | [] => .ok m
  | number :: rest => match m.fill fuel number with
    | .error f => .error f
    | .ok m => m.fillAll fuel rest

/-- Fill all collections, and those that are met then, until none is left; `rounds` bounds how often. -/
def finish (fuel : Nat) : Nat → Making → Except Fault Making
  | 0, m => .ok m
  | rounds + 1, m =>
    if m.pending.isEmpty then .ok m
    else match ({ m with pending := [] }).fillAll fuel m.pending.reverse with
      | .error f => .error f
      | .ok m => finish fuel rounds m

end Making

def Graph.shapes (g : Graph) : Except Fault (Array (Option Shape)) :=
  let start : Making := { nodes := g.nodes, shapes := Array.replicate g.nodes.size none }
  match start.shapeOf g.root with
  | .error f => .error f
  | .ok (_, m) => (Making.finish (2 * Nodes.mergeCount g.nodes + 2) (g.nodes.size + 1) m).map (·.shapes)

namespace Shape

def data? (part : Nat → Option Data) : Shape → Option Data
  | scalar s => some (.scalar s)
  | list items => (items.mapM part).map Data.list
  | pairs items => (items.mapM fun (e : Nat × Nat) => do pure (Data.list [← part e.1, ← part e.2])).map Data.list
  | map entries => (entries.mapM fun (e : Scalar × Nat) => do pure (e.1, ← part e.2)).map Data.map
  | set members => some (.set members)

/-- Give their data to the nodes whose parts have theirs; the nodes come last first, since parts mostly stand
behind the whole. -/
def settleOnce (shapes : Array (Option Shape)) (done : Array (Option Data)) : Array (Option Data) :=
  (List.range shapes.size).foldr (fun number done =>
    match done.getD number none, shapes.getD number none with
    | none, some shape => match shape.data? fun part => done.getD part none with
      | some d => done.setIfInBounds number (some d)
      | none => done
    | _, _ => done) done

/-- The data of all nodes that do not lead to one that holds itself; `rounds` bounds the number of rounds. -/
def settled (shapes : Array (Option Shape)) : Nat → Array (Option Data) → Array (Option Data)
  | 0, done => done
  | rounds + 1, done =>
    let next := settleOnce shapes done
    if next.foldl (fun n d => if d.isSome then n + 1 else n) 0
        = done.foldl (fun n d => if d.isSome then n + 1 else n) 0 then done
    else settled shapes rounds next

def levels : Nat := 64

/-- The data of all nodes, those that hold themselves written out for a number of levels. -/
def writtenOut (shapes : Array (Option Shape)) (done : Array (Option Data)) : Nat → Array Data
  | 0 => done.map (·.getD .deeper)
  | levels + 1 =>
    let parts := writtenOut shapes done levels
    (Array.range shapes.size).map fun number =>
      ((done.getD number none).orElse fun _ =>
        ((shapes.getD number none).bind fun shape => shape.data? (parts[·]?))).getD .deeper

end Shape

def Graph.value (g : Graph) : Except Fault Data :=
  match g.shapes with
  | .error f => .error f
  | .ok shapes =>
    let done := Shape.settled shapes (shapes.size + 1) (Array.replicate shapes.size none)
    match done.getD g.root none with
    | some d => .ok d
    | none => .ok ((Shape.writtenOut shapes done Shape.levels).getD g.root .deeper)

/-- The data that a text holds. A text without any document holds nothing. -/
def parse (text : List Char) : Except Fault Data :=
  match Reader.document (tokens text) with
  | .error f => .error f
  | .ok none => .ok .null
  | .ok (some g) => g.value

end TypedClient.Yaml
