import Mathlib.Data.List.Basic
import TypedClient.Proofs.Joining
import TypedClient.Proofs.Texts
import TypedClient.Rendition.Script

set_option autoImplicit false

namespace TypedClient

open Json (Textual keyed ofText? ofTexts)
open Text (Unpaired isWhole)

/-! ## Documents are made of texts -/

theorem Json.textual_keyed {n : Nat} {members : List (Key × Json)} (keys : List Key)
    (hkeys : members.map (·.1) = keys) (hnames : (keys.map (·.usual)).Nodup)
    (h : members.Forall fun m => Textual n m.2) : Textual (n + 1) (keyed .usual members) := by
  apply Textual.obj
  · have heq : (members.map fun m => (m.1.spelled .usual, m.2)).map (·.1) = keys.map (·.usual) := by
      rw [← hkeys, List.map_map, List.map_map]
      rfl
    rwa [heq]
  · rw [List.forall_mem_map]
    exact List.forall_iff_forall_mem.mp h

theorem Json.textual_map {α : Type} {n : Nat} {f : α → Json} {items : List α}
    (h : ∀ x ∈ items, Textual n (f x)) : Textual (n + 1) (.arr (items.map f)) := by
  apply Textual.arr
  rw [List.forall_mem_map]
  exact h

theorem Json.textual_ofText? (n : Nat) (t : Option Text) : Textual n (ofText? t) := by
  cases t with
  | none => exact .null
  | some t => exact .str t

theorem Json.textual_ofTexts (n : Nat) (ts : List Text) : Textual (n + 1) (ofTexts ts) :=
  Json.textual_map fun t _ => .str t

open Json (textual_keyed textual_map textual_ofText? textual_ofTexts)

theorem Enumeration.textual (n : Nat) (e : Enumeration) : Textual (n + 2) (e.toJson .usual) := by
  apply textual_keyed [.ident, .values] rfl (by decide)
  exact ⟨.str _, textual_ofTexts n _⟩

theorem Field.textual (n : Nat) (f : Field) : Textual (n + 1) (f.toJson .usual) := by
  apply textual_keyed [.ident, .kind, .type, .isList, .isRequired, .isUnique, .isId, .relationName,
    .documentation] rfl (by decide)
  exact ⟨.str _, .str _, .str _, .bool _, .bool _, .bool _, .bool _, textual_ofText? n _, textual_ofText? n _⟩

theorem Entity.textual (n : Nat) (e : Entity) : Textual (n + 3) (e.toJson .usual) := by
  apply textual_keyed [.ident, .fields, .idFields, .uniqueFields, .documentation] rfl (by decide)
  exact ⟨.str _, textual_map fun f _ => f.textual n, textual_ofTexts (n + 1) _,
    textual_map fun group _ => textual_ofTexts n group, textual_ofText? _ _⟩

theorem Datamodel.textual (n : Nat) (d : Datamodel) : Textual (n + 5) (d.toJson .usual) := by
  apply textual_keyed [.models, .enums] rfl (by decide)
  exact ⟨textual_map fun e _ => e.textual n, textual_map fun e _ => e.textual (n + 1)⟩

theorem Candidate.textual (n : Nat) (c : Candidate) : Textual (n + 1) (c.toJson .usual) := by
  apply textual_keyed [.type, .kind, .isList, .isRequired, .isNullable] rfl (by decide)
  exact ⟨.str _, .str _, .bool _, .bool _, .bool _⟩

theorem Argument.textual (n : Nat) (a : Argument) : Textual (n + 3) (a.toJson .usual) := by
  apply textual_keyed [.ident, .inputType, .comment] rfl (by decide)
  exact ⟨.str _, textual_map fun c _ => c.textual n, textual_ofText? _ _⟩

theorem Target.textual (n : Nat) (t : Target) : Textual (n + 1) (t.toJson .usual) := by
  apply textual_keyed [.type, .kind, .isList, .isRequired] rfl (by decide)
  exact ⟨.str _, .str _, .bool _, .bool _⟩

theorem OutputField.textual (n : Nat) (f : OutputField) : Textual (n + 5) (f.toJson .usual) := by
  apply textual_keyed [.ident, .outputType, .args] rfl (by decide)
  exact ⟨.str _, f.target.textual (n + 3), textual_map fun a _ => a.textual n⟩

theorem InputType.textual (n : Nat) (t : InputType) : Textual (n + 5) (t.toJson .usual) := by
  apply textual_keyed [.ident, .fields] rfl (by decide)
  exact ⟨.str _, textual_map fun a _ => a.textual n⟩

theorem OutputType.textual (n : Nat) (t : OutputType) : Textual (n + 7) (t.toJson .usual) := by
  apply textual_keyed [.ident, .fields] rfl (by decide)
  exact ⟨.str _, textual_map fun f _ => f.textual n⟩

theorem QuerySchema.textual (n : Nat) (q : QuerySchema) : Textual (n + 9) (q.toJson .usual) := by
  apply textual_keyed [.inputTypes, .outputTypes, .enums] rfl (by decide)
  exact ⟨textual_map fun t _ => t.textual (n + 2), textual_map fun t _ => t.textual n,
    textual_map fun e _ => e.textual (n + 5)⟩

theorem Mapping.textual (n : Nat) (m : Mapping) : Textual (n + 1) (m.toJson .usual) := by
  apply textual_keyed ([.model, .plural] ++ Action.all.map .ofAction) rfl (by decide)
  rw [List.forall_append, List.forall_map_iff, List.forall_iff_forall_mem (l := Action.all)]
  exact ⟨⟨.str _, .str _⟩, fun a _ => textual_ofText? n _⟩

theorem Passage.joined_append {before after : List Passage} (hbefore : before ≠ []) (hafter : after ≠ []) :
    joined (before ++ after) = joined before ++ "\n\n" ++ joined after := by
  rw [joined, List.map_append]
  exact Text.intercalate_append (by simpa) (by simpa)

namespace Document

variable (d : Document) (s : Settings)

theorem textual : Textual 10 (d.toJson .usual) := by
  -- the candidates of an argument of an output field are the deepest parts
  apply textual_keyed [.datamodel, .querySchema, .mappings] rfl (by decide)
  exact ⟨d.datamodel.textual 4, d.schema.textual 0, textual_map fun m _ => m.textual 7⟩

/-! ## The line with the schema -/

def beforeSchema : Text :=
  Passage.joined (scriptHead s ++ bundlerPassages s ++ [enumPrelude] ++ d.enums.map (·.jsPassage))
    ++ "\n\n" ++ "/**\n * DMMF\n */\n"

/-- The script behind the line with the schema, for a configuration of the client class. -/
def afterSchema (s : Settings) (config : Json) : Text :=
  "\n\n" ++ Passage.joined (bootstrapPassages s.clientName "" (Json.indented .ascii 2 0 config)).tail

theorem ofLines_schema (line : String) :
    Text.ofLines ["/**", " * DMMF", " */", line] = "/**\n * DMMF\n */\n" ++ (line : Text) := by
  simp only [Text.ofLines, Text.joinLines, List.map_cons, List.map_nil, Text.intercalate_cons_cons,
    Text.intercalate_singleton, ← List.append_assoc]
  rfl

theorem joined_bootstrapPassages (config : Json) :
    Passage.joined (bootstrapPassages s.clientName d.schemaText (Json.indented .ascii 2 0 config))
      = "/**\n * DMMF\n */\n" ++ ("const dmmfString = " ++ Json.quote d.schemaText) ++ afterSchema s config := by
  -- only the first passage holds the schema, and its last line is the one
  rw [afterSchema, bootstrapPassages, bootstrapPassages, Passage.joined, List.map_cons, List.map_cons,
    Text.intercalate_cons_cons, List.tail_cons, Passage.ofLines, ofLines_schema, Text.ofString_append,
    List.append_assoc, List.append_assoc]
  rfl

theorem joined_jsPassagesWith (config : Json) :
    Passage.joined (d.jsPassagesWith s config)
      = d.beforeSchema s ++ ("const dmmfString = " ++ Json.quote d.schemaText) ++ afterSchema s config := by
  have hne : scriptHead s ++ bundlerPassages s ++ [enumPrelude] ++ d.enums.map (·.jsPassage) ≠ [] := by
    simp [scriptHead]
  rw [jsPassagesWith, Passage.joined_append hne (by simp [bootstrapPassages]), joined_bootstrapPassages,
    beforeSchema]
  simp only [List.append_assoc]

/-- The script holds the schema on a line of its own, as a literal of printable ASCII characters. Decoding the
literal gives the schema as it was embedded whenever all its texts have an encoding, and beyond that
wherever no first half of a pair stands right before a second one. Decoding the schema gives the document. -/
theorem embedded_decodes (current : List Text) :
    d.jsText s current = (s.clientConfig current).map (fun config =>
        d.beforeSchema s ++ ("const dmmfString = " ++ Json.quote d.schemaText) ++ afterSchema s config)
      ∧ (∀ c ∈ (Json.quote d.schemaText).toList, 0x20 ≤ c.toNat ∧ c.toNat ≤ 0x7E)
      ∧ ((∀ t ∈ (d.toJson .usual).texts, isWhole t = true) →
          Json.parse (Json.quote d.schemaText) = .ok (.text d.schemaText))
      ∧ (Json.parse (Json.quote d.schemaText) = .ok (.text d.schemaText)
          ↔ ∀ t ∈ (d.toJson .usual).texts, Unpaired t)
      ∧ Json.parse d.schemaText = .ok (Data.ofJson (d.toJson .usual)) := by
  have hdecodes : Json.parse (Json.quote d.schemaText) = .ok (.text d.schemaText)
      ↔ ∀ t ∈ (d.toJson .usual).texts, Unpaired t :=
    (Json.parse_quote_eq_iff d.schemaText).trans (Json.unpaired_compact d.textual)
  refine ⟨?_, fun c hc => Json.quote_range hc, ?_, hdecodes, Json.parse_compact d.textual (by decide)⟩
  · rw [jsText, jsPassages]
    cases s.clientConfig current with
    | error fault => rfl
    | ok config => exact congrArg Except.ok (d.joined_jsPassagesWith s config)
  · intro hwhole
    exact hdecodes.mpr fun t ht => Text.unpaired_of_isWhole (hwhole t ht)

end Document

end TypedClient
