import TypedClient.Artifact
import TypedClient.Rendition.Script
import TypedClient.Rendition.Types

set_option autoImplicit false

namespace TypedClient.Document

def rendered (d : Document) (s : Settings) (current : List Text) : Except RenditionFault Batch := do
  let ts ← orInconsistent (d.tsText s)
  let types : Artifact := ⟨s.tsFilename, ts⟩
  if s.emitJs then
    let js ← d.jsText s current
    return ⟨[types, ⟨s.jsFilename, js⟩], d.entities.length⟩
  else return ⟨[types], d.entities.length⟩

inductive Refused where
  | findings (findings : Findings)
  | fault (fault : RenditionFault)

def checkedRendered (d : Document) (s : Settings) (current : List Text) : Except Refused Batch :=
  match d.ensureValid (some s) with
  | .error fs => .error (.findings fs)
  | .ok _ => match d.rendered s current with
    | .ok batch => .ok batch
    | .error fault => .error (.fault fault)

end TypedClient.Document
