import TypedClient.Declaration.Args
import TypedClient.Declaration.Delegate
import TypedClient.Declaration.EntityClient
import TypedClient.Declaration.Enumeration
import TypedClient.Declaration.RootClient
import TypedClient.Rendition.Preamble

set_option autoImplicit false

namespace TypedClient

structure EntityDeclarations where
  entity : Entity
  outputType : OutputType
  delegate : Option Delegate
  args : List ArgsDeclaration

namespace EntityDeclarations

def names (e : EntityDeclarations) : List String :=
  [e.entity.name, selectName e.outputType.name]
    ++ (if e.outputType.includeShape.isSome then [includeName e.outputType.name] else [])
    ++ [e.outputType.payload.name]
    ++ (e.delegate.elim [] fun d => [d.name])
    ++ [clientName e.outputType.name]
    ++ e.args.map (·.name)

def doc (e : EntityDeclarations) : Text :=
  "Model " ++ e.entity.name ++ (match e.entity.documentation with
    | none | some [] => ""
    | some note => "\n" ++ note)

def blocks (e : EntityDeclarations) : List Text :=
  [Text.docBlock e.doc,
    "export type " ++ e.entity.name ++ " = " ++ e.entity.valueShape.render ++ "\n",
    e.outputType.selectText]
    ++ (if e.outputType.includeShape.isSome then [e.outputType.includeText] else [])
    ++ [e.outputType.payload.text]
    ++ (e.delegate.elim [] fun d => [d.text])
    ++ [e.outputType.clientText, "// Custom InputTypes\n"]
    ++ e.args.map (·.text)

def passage (e : EntityDeclarations) : Passage :=
  { declares := e.names, text := Text.joinLines e.blocks }

end EntityDeclarations

def Enumeration.tsPassage (e : Enumeration) : Passage := { declares := [e.name], text := e.tsText }

def InputType.passage (t : InputType) : Passage := { declares := [t.name], text := t.text }

namespace Document

def entityDeclarations (d : Document) (e : Entity) : Except Inconsistency EntityDeclarations := do
  let outputType ← d.outputType e.name
  let delegate ← d.delegate e
  let args ← d.entityArgs e
  return ⟨e, outputType, delegate, args⟩

def allDeclarations (d : Document) : List Entity → Except Inconsistency (List EntityDeclarations)
  | [] => .ok []
  | e :: rest => do
    let first ← d.entityDeclarations e
    let others ← d.allDeclarations rest
    return first :: others

/-- The passages of the type declarations around those of the record types. -/
def tsPassagesWith (d : Document) (s : Settings) (declarations : List EntityDeclarations) :
    List Passage :=
  headPassages s
    ++ [.ofLines [] ["/**", " * Client", "**/"],
      { declares := ["Datasources"], text := s.datasourcesText }]
    ++ optionPassages s.clientName
    ++ [{ declares := [s.clientName], text := d.clientText s }, .ofLines [] ["/**", " * Enums", " */"]]
    ++ d.enums.map (·.tsPassage)
    ++ declarations.map (·.passage)
    ++ [.ofLines [] ["/**", " * Deep Input Types", " */"]]
    ++ d.schema.inputTypes.map (·.passage)
    ++ [batchPassage, schemaPassage]

def tsPassages (d : Document) (s : Settings) : Except Inconsistency (List Passage) :=
  (d.allDeclarations d.entities).map (d.tsPassagesWith s)

def tsText (d : Document) (s : Settings) : Except Inconsistency Text :=
  (d.tsPassages s).map Passage.joined

end Document

end TypedClient
