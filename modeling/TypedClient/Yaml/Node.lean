import TypedClient.Yaml.Kind
import TypedClient.Yaml.Token

set_option autoImplicit false

namespace TypedClient.Yaml

/-- The kind that a text tells; halves of pairs tell none. -/
def Kind.ofText (text : Text) : Kind := text.string?.elim .str .ofPlain

inductive Content where
  | scalar (text : Text)
  | sequence (items : List Nat)
  | mapping (entries : List (Nat × Nat))
  deriving DecidableEq, Repr

structure Node where
  kind : Kind
  content : Content
  deriving DecidableEq, Repr

def Node.nothing : Node := ⟨.ofPlain "", .scalar []⟩

instance : Inhabited Node := ⟨.nothing⟩

/-- The nodes of a document, each at its number, and the outermost one. -/
structure Graph where
  nodes : Array Node
  root : Nat

def maxDepth : Nat := 485

structure Reader where
  tokens : List Token
  handles : List (String × String) := []
  anchors : List (String × Nat) := []
  /-- The nodes that were read to their end, with their numbers. -/
  made : List (Nat × Node) := []
  count : Nat := 0
  depth : Nat := 0

namespace Reader

abbrev Part (α : Type) := Except Fault (α × Reader)

def next (r : Reader) : Reader := { r with tokens := r.tokens.tail }

def misfit (r : Reader) : Fault :=
  match r.tokens with
  | .broken f :: _ => f
  | _ => .malformed

def sees (r : Reader) (t : Token) : Bool := r.tokens.head? == some t

def seesAny (r : Reader) (ts : List Token) : Bool := r.tokens.head?.any fun t => ts.contains t

def fullTag (r : Reader) (handle : Option String) (suffix : String) : Except Fault String :=
  match handle with
  | none => .ok suffix
  | some h => match r.handles.lookup h with
    | some start => .ok (start ++ suffix)
    | none => .error .malformed

def properties (r : Reader) : Part (Option String × Option String) :=
  let tagOf (name : Option String) (handle : Option String) (suffix : String) (r : Reader) :
      Part (Option String × Option String) :=
    match r.fullTag handle suffix with
    | .error f => .error f
    | .ok tag => .ok ((name, some tag), r)
  match r.tokens with
  | .anchor name :: .tag handle suffix :: _ => tagOf (some name) handle suffix r.next.next
  | .anchor name :: _ => .ok ((some name, none), r.next)
  | .tag handle suffix :: .anchor name :: _ => tagOf (some name) handle suffix r.next.next
  | .tag handle suffix :: _ => tagOf none handle suffix r.next
  | _ => .ok ((none, none), r)

def announce (r : Reader) (name : Option String) : Except Fault Unit :=
  match r.tokens, name with
  | .broken f :: _, _ => .error f
  | _, none => .ok ()
  | _, some name => if r.anchors.any (·.1 == name) then .error .malformed else .ok ()

def take (r : Reader) (name : Option String) : Nat × Reader :=
  (r.count, { r with
    count := r.count + 1
    anchors := name.elim r.anchors fun name => (name, r.count) :: r.anchors })

def put (r : Reader) (number : Nat) (n : Node) : Reader := { r with made := (number, n) :: r.made }

def add (r : Reader) (name : Option String) (n : Node) : Nat × Reader :=
  let (number, r) := r.take name
  (number, r.put number n)

/-- A collection: its number is taken before its parts are read, so that they may refer to it. -/
def collection {α : Type} (r : Reader) (name : Option String) (kind : Kind) (make : List α → Content)
    (parts : Reader → Part (List α)) : Part Nat :=
  if maxDepth ≤ r.depth then .error .tooDeep
  else
    let (number, r) := r.take name
    match parts { r with depth := r.depth + 1 } with
    | .error f => .error f
    | .ok (found, r) => .ok (number, { r with depth := r.depth - 1 }.put number ⟨kind, make found⟩)

def named (r : Reader) (name : String) : Except Fault Nat :=
  match r.anchors.lookup name with
  | some number => .ok number
  | none => .error .malformed

def scalarKind (tag : Option String) (text : Text) (isPlain : Bool) : Kind :=
  match tag with
  | none => if isPlain then .ofText text else .str
  | some "!" => .ofText text
  | some tag => .ofTag tag

def collectionKind (tag : Option String) (usual : Kind) : Kind :=
  match tag with
  | none | some "!" => usual
  | some tag => .ofTag tag

mutual

/-- A node. Block collections are taken where `inBlock` says so, and a sequence without indentation where
`isIndentless` does. Here and below `fuel` bounds the number of parts. -/
def node (inBlock isIndentless : Bool) : Nat → Reader → Part Nat
  | 0, _ => .error .malformed
  | fuel + 1, r =>
    match r.tokens with
    | .reference name :: _ => match r.named name with
      | .error f => .error f
      | .ok number => .ok (number, r.next)
    | _ => match r.properties with
      | .error f => .error f
      | .ok ((name, tag), r) => match r.announce name with
        | .error f => .error f
        | .ok () =>
          let sequence (parts : Reader → Part (List Nat)) (r : Reader) : Part Nat :=
            r.collection name (collectionKind tag .seq) .sequence parts
          let mapping (parts : Reader → Part (List (Nat × Nat))) (r : Reader) : Part Nat :=
            r.collection name (collectionKind tag .map) .mapping parts
          -- nothing is a node only behind a name or a tag
          let emptyOr (r : Reader) : Part Nat :=
            if name.isSome || tag.isSome then
              .ok (r.add name ⟨scalarKind tag [] true, .scalar []⟩)
            else .error r.misfit
          match r.tokens with
          | .scalar text isPlain :: _ =>
            .ok (r.next.add name ⟨scalarKind tag text isPlain, .scalar text⟩)
          | .flowSequenceStart :: _ => sequence (flowItems fuel true) r.next
          | .flowMappingStart :: _ => mapping (flowEntries fuel true) r.next
          | .blockEntry :: _ => if isIndentless then sequence (indentlessItems fuel) r else emptyOr r
          | .blockSequenceStart :: _ => if inBlock then sequence (blockItems fuel) r.next else emptyOr r
          | .blockMappingStart :: _ => if inBlock then mapping (blockEntries fuel) r.next else emptyOr r
          | _ => emptyOr r

def nodeUnless (stops : List Token) (inBlock isIndentless : Bool) : Nat → Reader → Part Nat
  | 0, _ => .error .malformed
  | fuel + 1, r =>
    if r.seesAny stops then .ok (r.add none .nothing) else node inBlock isIndentless fuel r

def valueUnless (stops : List Token) (inBlock isIndentless : Bool) : Nat → Reader → Part Nat
  | 0, _ => .error .malformed
  | fuel + 1, r =>
    if r.sees .value then nodeUnless stops inBlock isIndentless fuel r.next
    else .ok (r.add none .nothing)

def blockItems : Nat → Reader → Part (List Nat)
  | 0, _ => .error .malformed
  | fuel + 1, r =>
    if r.sees .blockEntry then
      match nodeUnless [.blockEntry, .blockEnd] true false fuel r.next with
      | .error f => .error f
      | .ok (n, r) => match blockItems fuel r with
        | .error f => .error f
        | .ok (ns, r) => .ok (n :: ns, r)
    else if r.sees .blockEnd then .ok ([], r.next)
    else .error r.misfit

def indentlessItems : Nat → Reader → Part (List Nat)
  | 0, _ => .error .malformed
  | fuel + 1, r =>
    if r.sees .blockEntry then
      match nodeUnless [.blockEntry, .key, .value, .blockEnd] true false fuel r.next with
      | .error f => .error f
      | .ok (n, r) => match indentlessItems fuel r with
        | .error f => .error f
        | .ok (ns, r) => .ok (n :: ns, r)
    else .ok ([], r)

def blockEntries : Nat → Reader → Part (List (Nat × Nat))
  | 0, _ => .error .malformed
  | fuel + 1, r =>
    if r.sees .key then
      match nodeUnless [.key, .value, .blockEnd] true true fuel r.next with
      | .error f => .error f
      | .ok (k, r) => match valueUnless [.key, .value, .blockEnd] true true fuel r with
        | .error f => .error f
        | .ok (v, r) => match blockEntries fuel r with
          | .error f => .error f
          | .ok (es, r) => .ok ((k, v) :: es, r)
    else if r.sees .blockEnd then .ok ([], r.next)
    else .error r.misfit

def flowItems : Nat → Bool → Reader → Part (List Nat)
  | 0, _, _ => .error .malformed
  | fuel + 1, isFirst, r =>
    if r.sees .flowSequenceEnd then .ok ([], r.next)
    else if !isFirst && !r.sees .flowEntry then .error r.misfit
    else
      let r := if isFirst then r else r.next
      if r.sees .flowSequenceEnd then .ok ([], r.next)
      else
        let pair (r : Reader) : Part (List (Nat × Nat)) :=
          match nodeUnless [.value, .flowEntry, .flowSequenceEnd] false false fuel r with
          | .error f => .error f
          | .ok (k, r) => match valueUnless [.flowEntry, .flowSequenceEnd] false false fuel r with
            | .error f => .error f
            | .ok (v, r) => .ok ([(k, v)], r)
        let item : Part Nat :=
          if r.sees .key then r.next.collection none .map .mapping pair else node false false fuel r
        match item with
        | .error f => .error f
        | .ok (n, r) => match flowItems fuel false r with
          | .error f => .error f
          | .ok (ns, r) => .ok (n :: ns, r)

def flowEntries : Nat → Bool → Reader → Part (List (Nat × Nat))
  | 0, _, _ => .error .malformed
  | fuel + 1, isFirst, r =>
    if r.sees .flowMappingEnd then .ok ([], r.next)
    else if !isFirst && !r.sees .flowEntry then .error r.misfit
    else
      let r := if isFirst then r else r.next
      if r.sees .flowMappingEnd then .ok ([], r.next)
      else
        let entry : Part (Nat × Nat) :=
          if r.sees .key then
            match nodeUnless [.value, .flowEntry, .flowMappingEnd] false false fuel r.next with
            | .error f => .error f
            | .ok (k, r) => match valueUnless [.flowEntry, .flowMappingEnd] false false fuel r with
              | .error f => .error f
              | .ok (v, r) => .ok ((k, v), r)
          else match node false false fuel r with
            | .error f => .error f
            | .ok (k, r) =>
              let (v, r) := r.add none .nothing
              .ok ((k, v), r)
        match entry with
        | .error f => .error f
        | .ok (e, r) => match flowEntries fuel false r with
          | .error f => .error f
          | .ok (es, r) => .ok (e :: es, r)

end

def usualHandles : List (String × String) := [("!", "!"), ("!!", tagStart)]

/-- Read the directives in front of a document. Only one version and one rule for a handle may be given. -/
def directives (r : Reader) (hasVersion : Bool) : List Token → Except Fault Reader
  | .directive d :: rest =>
    match d with
    | .version major =>
      if hasVersion || major ≠ 1 then .error .malformed else r.directives true rest
    | .handle h start =>
      if r.handles.any (·.1 == h) then .error .malformed
      else { r with handles := r.handles ++ [(h, start)] }.directives hasVersion rest
    | .other => r.directives hasVersion rest
  | .documentStart :: rest =>
    .ok { r with tokens := rest, handles := r.handles ++ usualHandles }
  | tokens => .error ({ r with tokens }).misfit

def graph (r : Reader) (root : Nat) : Graph :=
  ⟨r.made.foldl (fun nodes e => nodes.setIfInBounds e.1 e.2) (Array.replicate r.count .nothing), root⟩

def document (tokens : List Token) : Except Fault (Option Graph) :=
  let fuel := 4 * tokens.length + 8
  let only (part : Part Nat) : Except Fault (Option Graph) :=
    match part with
    | .error f => .error f
    | .ok (root, r) =>
      let r := { r with tokens := r.tokens.dropWhile (· == Token.documentEnd) }
      if r.tokens.isEmpty then .ok (some (r.graph root)) else .error r.misfit
  match tokens with
  | [] => .ok none
  | .directive _ :: _ | .documentStart :: _ =>
    match ({ tokens } : Reader).directives false tokens with
    | .error f => .error f
    | .ok r =>
      if r.tokens.isEmpty || r.seesAny [.documentStart, .documentEnd]
          || r.tokens.head?.any (fun t => t matches .directive _) then only (.ok (r.add none .nothing))
      else only (node true false fuel r)
  | _ => only (node true false fuel { tokens, handles := usualHandles })

end Reader

end TypedClient.Yaml
