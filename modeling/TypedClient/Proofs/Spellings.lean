import Mathlib.Logic.Relation
import TypedClient.Proofs.Rereading

set_option autoImplicit false

/-!
# Other spellings of a document

Keys have two spellings, a value of an enumeration is a text or an object with a name, and a single candidate needs no
list. A document may be respelled in any of these ways, at one place after another: what is read stays the same, and so
does whether anything is.
-/

namespace TypedClient

inductive Piece where
  | document
  | datamodel
  | entity
  | field
  | enumeration
  | schema
  | inputType
  | outputType
  | outputField
  | target
  | argument
  | candidate
  | mapping
  deriving DecidableEq

inductive Content where
  | plain
  | one (p : Piece)
  | many (p : Piece)
  | values
  | candidates
  deriving DecidableEq

def Piece.contents : Piece → List (Key × Content)
  | .document => [(.datamodel, .one .datamodel), (.querySchema, .one .schema), (.mappings, .many .mapping)]
  | .datamodel => [(.models, .many .entity), (.enums, .many .enumeration)]
  | .entity => [(.ident, .plain), (.fields, .many .field), (.idFields, .plain), (.uniqueFields, .plain),
      (.documentation, .plain)]
  | .field => [(.ident, .plain), (.kind, .plain), (.type, .plain), (.isList, .plain), (.isRequired, .plain),
      (.isUnique, .plain), (.isId, .plain), (.relationName, .plain), (.documentation, .plain)]
  | .enumeration => [(.ident, .plain), (.values, .values)]
  | .schema => [(.inputTypes, .many .inputType), (.outputTypes, .many .outputType), (.enums, .many .enumeration)]
  | .inputType => [(.ident, .plain), (.fields, .many .argument)]
  | .outputType => [(.ident, .plain), (.fields, .many .outputField)]
  | .outputField => [(.ident, .plain), (.outputType, .one .target), (.args, .many .argument)]
  | .target => [(.type, .plain), (.kind, .plain), (.isList, .plain), (.isRequired, .plain)]
  | .argument => [(.ident, .plain), (.inputType, .candidates), (.comment, .plain)]
  | .candidate => [(.type, .plain), (.kind, .plain), (.isList, .plain), (.isRequired, .plain), (.isNullable, .plain)]
  | .mapping => [(.model, .plain), (.plural, .plain)] ++ Action.all.map fun a => (.ofAction a, .plain)

inductive Respells : Content → Data → Data → Prop
  | key {p : Piece} {k : Key} {c : Content} {v : Data} {l r : List (Scalar × Data)} (hk : (k, c) ∈ p.contents)
      (hother : Reading.entry? (l ++ r) k = none) (s t : Spelling) :
      Respells (.one p) (.map (l ++ (.text (k.spelled s), v) :: r)) (.map (l ++ (.text (k.spelled t), v) :: r))
  /-- A value of an enumeration; its object may have further entries. -/
  | value {s : String} {entries : List (Scalar × Data)} {l r : List Data}
      (hs : Data.get? entries "name" = some (.text s)) :
      Respells .values (.list (l ++ .text s :: r)) (.list (l ++ .map entries :: r))
  | single {entries : List (Scalar × Data)} : Respells .candidates (.map entries) (.list [.map entries])
  | under {p : Piece} {k : Key} {c : Content} {v w : Data} {l r : List (Scalar × Data)} (hk : (k, c) ∈ p.contents)
      (s : Spelling) (h : Respells c v w) :
      Respells (.one p) (.map (l ++ (.text (k.spelled s), v) :: r)) (.map (l ++ (.text (k.spelled s), w) :: r))
  | among {p : Piece} {v w : Data} {l r : List Data} (h : Respells (.one p) v w) :
      Respells (.many p) (.list (l ++ v :: r)) (.list (l ++ w :: r))
  | bare {es fs : List (Scalar × Data)} (h : Respells (.one .candidate) (.map es) (.map fs)) :
      Respells .candidates (.map es) (.map fs)
  | listed {ds es : List Data} (h : Respells (.many .candidate) (.list ds) (.list es)) :
      Respells .candidates (.list ds) (.list es)

namespace Reading

variable {α : Type}

section Rel

variable {R S : Data → Data → Prop} {a b c d : Option Data}

theorem rel_mono (hRS : ∀ v w, R v w → S v w) (h : Option.Rel R a b) : Option.Rel S a b := by
  cases h with
  | none => exact .none
  | some h => exact .some (hRS _ _ h)

theorem rel_refl (hrefl : ∀ d, R d d) : Option.Rel R a a := by
  cases a with
  | none => exact .none
  | some d => exact .some (hrefl d)

theorem rel_or (h : Option.Rel R a b) (h' : Option.Rel R c d) : Option.Rel R (a.or c) (b.or d) := by
  cases h with
  | none => exact h'
  | some h => exact .some h

end Rel

/-! ## Values that are read alike -/

def Alike (read : Data → Reading α) (v w : Data) : Prop := ∀ a, read v = .ok a ↔ read w = .ok a

section Alike

variable {read : Data → Reading α} {v w : Data}

theorem alike_equivalence (read : Data → Reading α) : Equivalence (Alike read) where
  refl _ _ := Iff.rfl
  symm h a := (h a).symm
  trans h₁ h₂ a := (h₁ a).trans (h₂ a)

theorem Alike.of_eq (h : read v = read w) : Alike read v w := by
  intro a
  rw [h]

theorem Alike.nonEmptyList (h : Alike (list read) v w) : Alike (nonEmptyList read) v w := by
  intro as
  rw [nonEmptyList_eq_ok_iff, nonEmptyList_eq_ok_iff, h as]

theorem Alike.list {ds es : List Data} (h : List.Forall₂ (Alike read) ds es) :
    Alike (list read) (.list ds) (.list es) := by
  intro as
  rw [list_eq_ok_iff, list_eq_ok_iff]
  induction h generalizing as with
  | nil => exact Iff.rfl
  | cons hd _ ih => simp only [List.forall₂_cons_left_iff, hd _, ih]

theorem Alike.among (h : Alike read v w) (l r : List Data) :
    Alike (Reading.list read) (.list (l ++ v :: r)) (.list (l ++ w :: r)) := by
  have hsame (ds : List Data) : List.Forall₂ (Alike read) ds ds :=
    List.forall₂_same.mpr fun d _ => (alike_equivalence read).refl d
  exact .list (List.rel_append (hsame l) (.cons h (hsame r)))

end Alike

section Parts

variable {es fs : List (Scalar × Data)} {key : Key}

theorem exists_value?_congr (read : Data → Reading α) (h : Option.Rel (Alike read) (value? es key) (value? fs key))
    (a : α) :
    (∃ d, value? es key = some d ∧ read d = .ok a) ↔ ∃ d, value? fs key = some d ∧ read d = .ok a := by
  generalize value? es key = v, value? fs key = w at h
  cases h with
  | none => simp
  | some h => simp [h a]

theorem required_congr (read : Data → Reading α) (h : Option.Rel (Alike read) (value? es key) (value? fs key))
    (a : α) :
    required key read es = .ok a ↔ required key read fs = .ok a := by
  rw [required_eq_ok_iff, required_eq_ok_iff, exists_value?_congr read h]

theorem optional_congr (read : Data → Reading α) (default : α)
    (h : Option.Rel (Alike read) (value? es key) (value? fs key)) (a : α) :
    optional key default read es = .ok a ↔ optional key default read fs = .ok a := by
  have hnone : value? es key = none ↔ value? fs key = none := by
    generalize value? es key = v, value? fs key = w at h
    cases h <;> simp
  rw [optional_eq_ok_iff, optional_eq_ok_iff, exists_value?_congr read h, hnone]

end Parts

/-! ## Finding a key -/

section Finding

variable {l r : List (Scalar × Data)} {k key : Key} {s : Spelling} {v w : Data}

theorem value?_of_apart (h : k.Apart key) :
    value? (l ++ (.text (k.spelled s), v) :: r) key = value? (l ++ r) key := by
  obtain ⟨husual, hname⟩ := h.spelled_ne s
  simp only [value?_eq, Data.get?_append, Data.get?_cons_text, Text.ofString_inj, if_neg husual, if_neg hname]

theorem value?_of_only (h : entry? (l ++ r) k = none) : value? (l ++ (.text (k.spelled s), v) :: r) k = some v := by
  have hnone : value? (l ++ r) k = none := by rw [value?, h, Option.map_none]
  simp only [value?_eq, Data.get?_append, Option.or_eq_none_iff] at hnone
  obtain ⟨⟨hlu, hru⟩, hln, hrn⟩ := hnone
  simp only [value?_eq, Data.get?_append, Data.get?_cons_text, hlu, hru, hln, hrn, Option.none_or]
  cases s with
  | usual => simp [Key.spelled]
  | name =>
    -- the usual spelling is looked for first, and is the same for a key of one word
    by_cases he : k.name = k.usual <;> simp [Key.spelled, he]

theorem get?_rel {R : Data → Data → Prop} (hrefl : ∀ d, R d d) (h : R v w) (t : Text) (name : String) :
    Option.Rel R (Data.get? (l ++ (.text t, v) :: r) name) (Data.get? (l ++ (.text t, w) :: r) name) := by
  have hhere : Option.Rel R (if t = (name : Text) then some v else Data.get? r name)
      (if t = (name : Text) then some w else Data.get? r name) := by
    split
    · exact .some h
    · exact rel_refl hrefl
  simp only [Data.get?_append, Data.get?_cons_text]
  exact rel_or (rel_refl hrefl) hhere

theorem value?_rel {R : Data → Data → Prop} (hrefl : ∀ d, R d d) (h : R v w) (t : Text) :
    Option.Rel R (value? (l ++ (.text t, v) :: r) key) (value? (l ++ (.text t, w) :: r) key) := by
  rw [value?_eq, value?_eq]
  exact rel_or (get?_rel hrefl h t key.usual) (get?_rel hrefl h t key.name)

end Finding

end Reading

open Reading

/-! ## The pieces of a document -/

namespace Piece

abbrev Value : Piece → Type
  | .document => Document
  | .datamodel => Datamodel
  | .entity => Entity
  | .field => Field
  | .enumeration => Enumeration
  | .schema => QuerySchema
  | .inputType => InputType
  | .outputType => OutputType
  | .outputField => OutputField
  | .target => Target
  | .argument => Argument
  | .candidate => Candidate
  | .mapping => Mapping

def read : (p : Piece) → Data → Reading p.Value
  | .document => Document.read
  | .datamodel => Datamodel.read
  | .entity => Entity.read
  | .field => Field.read
  | .enumeration => Enumeration.read
  | .schema => QuerySchema.read
  | .inputType => InputType.read
  | .outputType => OutputType.read
  | .outputField => OutputField.read
  | .target => Target.read
  | .argument => Argument.read
  | .candidate => Candidate.read
  | .mapping => Mapping.read

theorem contents_apart (p : Piece) : ∀ m ∈ p.contents, ∀ n ∈ p.contents, m ≠ n → m.1.Apart n.1 := by
  cases p <;> decide

end Piece

def Content.Alike : Content → Data → Data → Prop
  | .plain => Eq
  | .one p => Reading.Alike p.read
  | .many p => Reading.Alike (list p.read)
  | .values => Reading.Alike Enumeration.readValues
  | .candidates => Reading.Alike Argument.readCandidates

theorem Content.alike_refl (c : Content) (d : Data) : c.Alike d d := by
  cases c with
  | plain => rfl
  | _ => exact fun _ => Iff.rfl

def Piece.Matches (p : Piece) (es fs : List (Scalar × Data)) : Prop :=
  ∀ m ∈ p.contents, Option.Rel m.2.Alike (value? es m.1) (value? fs m.1)

/-! ## Piece by piece -/

section Pieces

variable {es fs : List (Scalar × Data)} {key : Key} {α : Type} {read : Data → Reading α} {default a : α}

theorem alike_of_plain (h : Option.Rel Content.plain.Alike (value? es key) (value? fs key)) :
    Option.Rel (Alike read) (value? es key) (value? fs key) :=
  rel_mono (fun _ _ hvw => .of_eq (congrArg read hvw)) h

theorem required_plain (h : Option.Rel Content.plain.Alike (value? es key) (value? fs key)) :
    required key read es = .ok a ↔ required key read fs = .ok a :=
  required_congr read (alike_of_plain h) a

theorem optional_plain (h : Option.Rel Content.plain.Alike (value? es key) (value? fs key)) :
    optional key default read es = .ok a ↔ optional key default read fs = .ok a :=
  optional_congr read default (alike_of_plain h) a

theorem Enumeration.alike (h : Piece.enumeration.Matches es fs) : Alike Enumeration.read (.map es) (.map fs) := by
  simp only [Piece.Matches, Piece.contents, List.forall_mem_cons] at h
  obtain ⟨hname, hvalues, -⟩ := h
  intro e
  rw [Enumeration.read_eq_ok_iff, Enumeration.read_eq_ok_iff, required_plain hname, required_congr readValues hvalues]

theorem Field.alike (h : Piece.field.Matches es fs) : Alike Field.read (.map es) (.map fs) := by
  simp only [Piece.Matches, Piece.contents, List.forall_mem_cons] at h
  obtain ⟨hname, hkind, htype, hlist, hrequired, hunique, hid, hrelation, hdocumentation, -⟩ := h
  intro f
  rw [Field.read_eq_ok_iff, Field.read_eq_ok_iff, required_plain hname, required_plain hkind, required_plain htype,
    optional_plain hlist, optional_plain hrequired, optional_plain hunique, optional_plain hid,
    optional_plain hrelation, optional_plain hdocumentation]

theorem Entity.alike (h : Piece.entity.Matches es fs) : Alike Entity.read (.map es) (.map fs) := by
  simp only [Piece.Matches, Piece.contents, List.forall_mem_cons] at h
  obtain ⟨hname, hfields, hid, hunique, hdocumentation, -⟩ := h
  have hfields : Option.Rel (Alike (nonEmptyList Field.read)) (value? es .fields) (value? fs .fields) :=
    rel_mono (fun _ _ => Alike.nonEmptyList) hfields
  intro e
  rw [Entity.read_eq_ok_iff, Entity.read_eq_ok_iff, required_plain hname, required_congr _ hfields,
    optional_plain hid, optional_plain hunique, optional_plain hdocumentation]

theorem Datamodel.alike (h : Piece.datamodel.Matches es fs) : Alike Datamodel.read (.map es) (.map fs) := by
  simp only [Piece.Matches, Piece.contents, List.forall_mem_cons] at h
  obtain ⟨hmodels, henums, -⟩ := h
  intro d
  rw [Datamodel.read_eq_ok_iff, Datamodel.read_eq_ok_iff, optional_congr (list Entity.read) [] hmodels,
    optional_congr (list Enumeration.read) [] henums]

theorem Candidate.alike (h : Piece.candidate.Matches es fs) : Alike Candidate.read (.map es) (.map fs) := by
  simp only [Piece.Matches, Piece.contents, List.forall_mem_cons] at h
  obtain ⟨htype, hkind, hlist, hrequired, hnullable, -⟩ := h
  intro c
  rw [Candidate.read_eq_ok_iff, Candidate.read_eq_ok_iff, required_plain htype, optional_plain hkind,
    optional_plain hlist, optional_plain hrequired, optional_plain hnullable]

theorem Argument.alike (h : Piece.argument.Matches es fs) : Alike Argument.read (.map es) (.map fs) := by
  simp only [Piece.Matches, Piece.contents, List.forall_mem_cons] at h
  obtain ⟨hname, hcandidates, hcomment, -⟩ := h
  intro a
  rw [Argument.read_eq_ok_iff, Argument.read_eq_ok_iff, required_plain hname,
    required_congr readCandidates hcandidates, optional_plain hcomment]

theorem Target.alike (h : Piece.target.Matches es fs) : Alike Target.read (.map es) (.map fs) := by
  simp only [Piece.Matches, Piece.contents, List.forall_mem_cons] at h
  obtain ⟨htype, hkind, hlist, hrequired, -⟩ := h
  intro t
  rw [Target.read_eq_ok_iff, Target.read_eq_ok_iff, required_plain htype, optional_plain hkind, optional_plain hlist,
    optional_plain hrequired]

theorem OutputField.alike (h : Piece.outputField.Matches es fs) : Alike OutputField.read (.map es) (.map fs) := by
  simp only [Piece.Matches, Piece.contents, List.forall_mem_cons] at h
  obtain ⟨hname, htarget, hargs, -⟩ := h
  intro f
  rw [OutputField.read_eq_ok_iff, OutputField.read_eq_ok_iff, required_plain hname, required_congr Target.read htarget,
    optional_congr (list Argument.read) [] hargs]

theorem InputType.alike (h : Piece.inputType.Matches es fs) : Alike InputType.read (.map es) (.map fs) := by
  simp only [Piece.Matches, Piece.contents, List.forall_mem_cons] at h
  obtain ⟨hname, hfields, -⟩ := h
  intro t
  rw [InputType.read_eq_ok_iff, InputType.read_eq_ok_iff, required_plain hname,
    optional_congr (list Argument.read) [] hfields]

theorem OutputType.alike (h : Piece.outputType.Matches es fs) : Alike OutputType.read (.map es) (.map fs) := by
  simp only [Piece.Matches, Piece.contents, List.forall_mem_cons] at h
  obtain ⟨hname, hfields, -⟩ := h
  intro t
  rw [OutputType.read_eq_ok_iff, OutputType.read_eq_ok_iff, required_plain hname,
    optional_congr (list OutputField.read) [] hfields]

theorem QuerySchema.alike (h : Piece.schema.Matches es fs) : Alike QuerySchema.read (.map es) (.map fs) := by
  simp only [Piece.Matches, Piece.contents, List.forall_mem_cons] at h
  obtain ⟨hinputs, houtputs, henums, -⟩ := h
  intro q
  rw [QuerySchema.read_eq_ok_iff, QuerySchema.read_eq_ok_iff, optional_congr (list InputType.read) [] hinputs,
    optional_congr (list OutputType.read) [] houtputs, optional_congr (list Enumeration.read) [] henums]

theorem Mapping.alike (h : Piece.mapping.Matches es fs) : Alike Mapping.read (.map es) (.map fs) := by
  simp only [Piece.Matches, Piece.contents, List.forall_mem_append, List.forall_mem_cons, List.forall_mem_map] at h
  obtain ⟨⟨hmodel, hplural, -⟩, hactions⟩ := h
  intro m
  rw [Mapping.read_eq_ok_iff, Mapping.read_eq_ok_iff, required_plain hmodel, required_plain hplural]
  simp only [optional_plain (hactions _ (Action.mem_all _))]

theorem Document.alike (h : Piece.document.Matches es fs) : Alike Document.read (.map es) (.map fs) := by
  simp only [Piece.Matches, Piece.contents, List.forall_mem_cons] at h
  obtain ⟨hmodel, hschema, hmappings, -⟩ := h
  intro d
  rw [Document.read_eq_ok_iff, Document.read_eq_ok_iff, optional_congr Datamodel.read {} hmodel,
    optional_congr QuerySchema.read {} hschema, optional_congr (list Mapping.read) [] hmappings]

namespace Piece

theorem Matches.alike {p : Piece} (h : p.Matches es fs) : Reading.Alike p.read (.map es) (.map fs) := by
  cases p with
  | document => exact Document.alike h
  | datamodel => exact Datamodel.alike h
  | entity => exact Entity.alike h
  | field => exact Field.alike h
  | enumeration => exact Enumeration.alike h
  | schema => exact QuerySchema.alike h
  | inputType => exact InputType.alike h
  | outputType => exact OutputType.alike h
  | outputField => exact OutputField.alike h
  | target => exact Target.alike h
  | argument => exact Argument.alike h
  | candidate => exact Candidate.alike h
  | mapping => exact Mapping.alike h

theorem matches_of_entry {p : Piece} {k : Key} {c : Content} {v w : Data} {l r : List (Scalar × Data)} {s t : Spelling}
    (hk : (k, c) ∈ p.contents)
    (h : Option.Rel c.Alike (value? (l ++ (.text (k.spelled s), v) :: r) k)
      (value? (l ++ (.text (k.spelled t), w) :: r) k)) :
    p.Matches (l ++ (.text (k.spelled s), v) :: r) (l ++ (.text (k.spelled t), w) :: r) := by
  intro m hm
  by_cases hmk : (k, c) = m
  · subst hmk
    exact h
  · -- the keys of a piece are apart, so the others are found among the entries that stay
    have hapart : k.Apart m.1 := p.contents_apart _ hk _ hm hmk
    rw [value?_of_apart hapart, value?_of_apart hapart]
    exact rel_refl m.2.alike_refl

end Piece

end Pieces

/-! ## Step by step -/

theorem Enumeration.plainValues_value {s : String} {entries : List (Scalar × Data)}
    (h : Data.get? entries "name" = some (.text s)) (l r : List Data) :
    plainValues (.list (l ++ .text s :: r)) = plainValues (.list (l ++ .map entries :: r)) := by
  simp only [plainValues, List.mapM_append, List.mapM_cons, plainValue, h]

theorem Respells.alike {c : Content} {v w : Data} (h : Respells c v w) : c.Alike v w := by
  induction h with
  | @key p k c v l r hk hother s t =>
    refine (Piece.matches_of_entry hk ?_).alike
    rw [value?_of_only hother, value?_of_only hother]
    exact .some (c.alike_refl v)
  | @value s entries l r hs =>
    refine Alike.of_eq ?_
    rw [Enumeration.readValues, Enumeration.readValues, Enumeration.plainValues_value hs]
  | single => exact Alike.of_eq rfl
  | @under p k c v w l r hk s h ih => exact (Piece.matches_of_entry hk (value?_rel c.alike_refl ih _)).alike
  | @among p v w l r h ih => exact ih.among l r
  | @bare es fs h ih =>
    rintro ⟨first, others⟩
    rw [Argument.readCandidates_eq_ok_iff, Argument.readCandidates_eq_ok_iff]
    exact ih.among [] [] _
  | listed h ih =>
    rintro ⟨first, others⟩
    rw [Argument.readCandidates_eq_ok_iff, Argument.readCandidates_eq_ok_iff]
    exact ih _

namespace Document

def roles (s : Spelling) (argument values : Data) : Data :=
  .map [(.text (Key.querySchema.spelled s), .map [
    (.text "inputTypes", .list [.map [(.text "name", .text "RoleFilter"), (.text "fields", .list [argument])]]),
    (.text "enums", .list [.map [(.text "name", .text "Role"), (.text "values", values)]])])]

section Roles

variable {s : Spelling} {argument values v w : Data}

end Roles

end Document

end TypedClient
