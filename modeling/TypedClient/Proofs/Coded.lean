import TypedClient.Declaration.Args
import TypedClient.Declaration.Field
import TypedClient.Proofs.Distinct
import TypedClient.Proofs.Whole

set_option autoImplicit false

/-!
# Documents whose notes have an encoding

Names have an encoding. Notes keep no rule; where they have one too, so has every type that is made of the names
and notes.
-/

namespace TypedClient

open Text (isWhole isWhole_append isWhole_ofString isWhole_joinLines isWhole_intercalate isWhole_indent)

/-! ## Comments -/

theorem Text.isWhole_breakTerminators {t : Text} (h : isWhole t = true) : isWhole (breakTerminators t) = true := by
  fun_induction breakTerminators t with
  | case1 rest ih => exact ih h
  | case2 l rest hne ih =>
    obtain ⟨hl, hrest⟩ := Bool.and_eq_true_iff.mp h
    exact Bool.and_eq_true_iff.mpr ⟨hl, ih hrest⟩
  | case3 => rfl

theorem Text.isWhole_trimEnd {t : Text} (h : isWhole t = true) : isWhole (trimEnd t) = true := by
  refine isWhole_of_subset h fun l hl => ?_
  rw [trimEnd, List.mem_reverse] at hl
  exact List.mem_reverse.mp ((List.dropWhile_sublist _).subset hl)

theorem Text.isWhole_docBlock {t : Text} (h : isWhole t = true) : isWhole (docBlock t) = true := by
  have hbody : isWhole (commentBody t) = true := by
    refine isWhole_joinLines (List.forall_mem_map.mpr fun line hline => isWhole_trimEnd ?_)
    rw [isWhole_append, isWhole_ofString, isWhole_of_mem_lines (isWhole_breakTerminators h) hline]
    rfl
  simp only [docBlock, isWhole_append, isWhole_ofString, hbody, Bool.and_true]

open Text (isWhole_docBlock)

/-! ## Types -/

/-- A note, where there is one, has an encoding. -/
def CodedNote (note : Option Text) : Prop := ∀ t, note = some t → isWhole t = true

theorem codedNote_none : CodedNote none := fun _ h => nomatch h

theorem codedNote_some {t : Text} : CodedNote (some t) ↔ isWhole t = true :=
  ⟨fun h => h t rfl, fun h _ ht => Option.some.inj ht ▸ h⟩

theorem isWhole_commentAbove {note : Option Text} (h : CodedNote note) : isWhole (commentAbove note) = true := by
  unfold commentAbove
  split
  · rfl
  · rfl
  · next t _ => rw [isWhole_append, isWhole_docBlock (h t rfl), isWhole_ofString, Bool.and_true]

namespace TypeExpr

mutual

/-- The notes in a type have an encoding. -/
def Coded : TypeExpr → Prop
  | .ref _ | .literal _ | .null | .never => True
  | .list item => Coded item
  | .generic _ args => AllCoded args
  | .union members => AllCoded members
  | .object members _ => MembersCoded members

def AllCoded : List TypeExpr → Prop
  | [] => True
  | t :: rest => Coded t ∧ AllCoded rest

def MembersCoded : List Member → Prop
  | [] => True
  | ⟨_, type, _, comment⟩ :: rest => (Coded type ∧ CodedNote comment) ∧ MembersCoded rest

end

def MemberCoded (m : Member) : Prop := Coded m.type ∧ CodedNote m.comment

theorem coded_ref (name : String) : Coded (.ref name) := by
  rw [Coded]
  trivial

theorem coded_null : Coded .null := by
  rw [Coded]
  trivial

theorem allCoded_iff (ts : List TypeExpr) : AllCoded ts ↔ ∀ t ∈ ts, Coded t := by
  induction ts with
  | nil => simp [AllCoded]
  | cons t ts ih => rw [AllCoded, ih, List.forall_mem_cons]

theorem membersCoded_iff (ms : List Member) : MembersCoded ms ↔ ∀ m ∈ ms, MemberCoded m := by
  induction ms with
  | nil => simp [MembersCoded]
  | cons m ms ih =>
    obtain ⟨name, type, isOptional, comment⟩ := m
    rw [MembersCoded, ih, List.forall_mem_cons, MemberCoded]

mutual

theorem isWhole_render (t : TypeExpr) (h : Coded t) : isWhole t.render = true := by
  match t with
  | .ref name => exact isWhole_ofString _
  | .literal value => exact isWhole_ofString _
  | .null => exact isWhole_ofString _
  | .never => exact isWhole_ofString _
  | .list item =>
    rw [Coded] at h
    have hitem := isWhole_render item h
    by_cases href : ∃ name, item = .ref name
    · obtain ⟨name, rfl⟩ := href
      rw [render, isWhole_append, isWhole_ofString, isWhole_ofString]
      rfl
    · rw [render]
      · simp only [isWhole_append, isWhole_ofString, hitem, Bool.and_true]
      · exact fun name heq => href ⟨name, heq⟩
  | .generic name [] =>
    rw [render]
    exact isWhole_ofString _
  | .generic name (a :: rest) =>
    rw [Coded] at h
    have hargs : isWhole (Text.intercalate ", " (renderAll (a :: rest))) = true :=
      isWhole_intercalate (isWhole_ofString _) (isWhole_renderAll _ h)
    simp only [render, isWhole_append, isWhole_ofString, hargs, Bool.and_true]
  | .union members =>
    rw [Coded] at h
    rw [render]
    exact isWhole_intercalate (isWhole_ofString _) (isWhole_renderAll _ h)
  | .object [] _ =>
    rw [render]
    exact isWhole_ofString _
  | .object (m :: rest) _ =>
    rw [Coded] at h
    have hmembers := isWhole_indent 2 (isWhole_joinLines (isWhole_renderMembers _ h))
    simp only [render, isWhole_append, isWhole_ofString, hmembers, Bool.and_true]

theorem isWhole_renderAll (ts : List TypeExpr) (h : AllCoded ts) : ∀ x ∈ renderAll ts, isWhole x = true := by
  match ts with
  | [] => exact List.forall_mem_nil _
  | t :: rest =>
    rw [AllCoded] at h
    rw [renderAll, List.forall_mem_cons]
    exact ⟨isWhole_render t h.1, isWhole_renderAll rest h.2⟩

theorem isWhole_renderMembers (ms : List Member) (h : MembersCoded ms) :
    ∀ x ∈ renderMembers ms, isWhole x = true := by
  match ms with
  | [] => exact List.forall_mem_nil _
  | ⟨name, type, isOptional, comment⟩ :: rest =>
    rw [MembersCoded] at h
    obtain ⟨⟨htype, hcomment⟩, hrest⟩ := h
    rw [renderMembers, List.forall_mem_cons]
    refine ⟨?_, isWhole_renderMembers rest hrest⟩
    simp only [isWhole_append, isWhole_ofString, isWhole_commentAbove hcomment, isWhole_render type htype,
      Bool.and_true]

end

theorem mem_of_mem_foldl_addNew {t : TypeExpr} (ts done : List TypeExpr) (h : t ∈ ts.foldl addNew done) :
    t ∈ done ∨ t ∈ ts := by
  induction ts generalizing done with
  | nil => exact .inl h
  | cons u ts ih =>
    obtain hdone | hts := ih _ h
    · unfold addNew at hdone
      split at hdone
      · exact .inl hdone
      · obtain hdone | hu := List.mem_append.mp hdone
        · exact .inl hdone
        · obtain rfl := List.mem_singleton.mp hu
          exact .inr List.mem_cons_self
    · exact .inr (List.mem_cons_of_mem u hts)

theorem coded_of_mem_parts {t u : TypeExpr} (h : Coded t) (hu : u ∈ t.parts) : Coded u := by
  unfold parts at hu
  split at hu
  · next members =>
    rw [Coded] at h
    exact (allCoded_iff members).mp h u hu
  · obtain rfl := List.mem_singleton.mp hu
    exact h

theorem coded_unionOf {ts : List TypeExpr} (h : ∀ t ∈ ts, Coded t) : Coded (unionOf ts) := by
  have hparts : ∀ u ∈ (ts.flatMap parts).foldl addNew [], Coded u := by
    intro u hu
    have hmem := (mem_of_mem_foldl_addNew _ _ hu).resolve_left List.not_mem_nil
    obtain ⟨t, ht, hut⟩ := List.mem_flatMap.mp hmem
    exact coded_of_mem_parts (h t ht) hut
  unfold unionOf ofParts
  split
  · next t heq =>
    rw [heq] at hparts
    exact hparts t List.mem_cons_self
  · rw [Coded, allCoded_iff]
    exact hparts

theorem coded_orNull {t : TypeExpr} (h : Coded t) : Coded t.orNull := by
  refine coded_unionOf ?_
  simp only [List.forall_mem_cons]
  exact ⟨h, coded_null, List.forall_mem_nil _⟩

theorem coded_object {members : List Member} {name : Option String} (h : ∀ m ∈ members, MemberCoded m) :
    Coded (.object members name) := by
  rw [Coded, membersCoded_iff]
  exact h

end TypeExpr

open TypeExpr (Coded MemberCoded coded_ref coded_null coded_unionOf coded_orNull coded_object isWhole_render)

/-! ## What a document is made of -/

theorem Field.member_coded {f : Field} (h : CodedNote f.documentation) : MemberCoded f.member := by
  refine ⟨?_, h⟩
  have hbase : Coded f.baseType := coded_ref _
  rw [Field.member, valueType]
  split
  · rw [Coded]
    exact hbase
  · split
    · exact hbase
    · exact coded_orNull hbase

theorem Entity.coded_valueShape {e : Entity} (h : ∀ f ∈ e.fields, CodedNote f.documentation) : Coded e.valueShape :=
  coded_object (List.forall_mem_map.mpr fun f hf => Field.member_coded (h f (List.mem_of_mem_filter hf)))

theorem Argument.coded_type (a : Argument) : Coded a.type := by
  have hone : Coded (TypeExpr.unionOf (a.targets.map targetType)) := by
    refine coded_unionOf (List.forall_mem_map.mpr fun name _ => ?_)
    unfold targetType
    split
    · exact coded_null
    · exact coded_ref name
  have hall : Coded (if a.isList then .generic "Enumerable" [TypeExpr.unionOf (a.targets.map targetType)]
      else TypeExpr.unionOf (a.targets.map targetType)) := by
    split
    · rw [Coded, TypeExpr.allCoded_iff]
      exact List.forall_mem_singleton.mpr hone
    · exact hone
  rw [type]
  split
  · exact coded_orNull hall
  · exact hall

theorem Argument.member_coded {a : Argument} (h : CodedNote a.comment) : MemberCoded a.member := ⟨a.coded_type, h⟩

theorem InputType.isWhole_text {t : InputType} (h : ∀ a ∈ t.fields, CodedNote a.comment) : isWhole t.text = true := by
  have hshape : Coded t.shape := by
    refine coded_object (List.forall_mem_map.mpr fun a ha => Argument.member_coded (h a ?_))
    exact List.mem_of_find?_eq_some ((mem_uniqueBy_iff Argument.name a t.fields).mp ha)
  simp only [text, isWhole_append, isWhole_ofString, isWhole_render _ hshape, Bool.and_true]

def Entity.notes (e : Entity) : List Text := e.documentation.toList ++ e.fields.flatMap (·.documentation.toList)

namespace Document

def arguments (d : Document) : List Argument :=
  d.schema.inputTypes.flatMap (·.fields) ++ d.schema.outputTypes.flatMap fun t => t.fields.flatMap (·.args)

/-- The texts of a document that keep no rule and are written as they are. -/
def notes (d : Document) : List Text :=
  d.entities.flatMap (·.notes) ++ d.arguments.flatMap (·.comment.toList)

end Document

structure Entity.Coded (e : Entity) : Prop where
  note : CodedNote e.documentation
  fields : ∀ f ∈ e.fields, CodedNote f.documentation

structure Document.Coded (d : Document) : Prop where
  entities : ∀ e ∈ d.entities, e.Coded
  inputs : ∀ t ∈ d.schema.inputTypes, ∀ a ∈ t.fields, CodedNote a.comment
  outputs : ∀ t ∈ d.schema.outputTypes, ∀ f ∈ t.fields, ∀ a ∈ f.args, CodedNote a.comment

theorem codedNote_iff {note : Option Text} : CodedNote note ↔ ∀ t ∈ note.toList, isWhole t = true := by
  simp [CodedNote]

theorem Document.coded_of_notes {d : Document} (h : ∀ t ∈ d.notes, isWhole t = true) : d.Coded := by
  simp only [notes, arguments, Entity.notes, List.forall_mem_append, List.forall_mem_flatMap, List.flatMap_append,
    ← codedNote_iff] at h
  obtain ⟨hentities, hinputs, houtputs⟩ := h
  exact ⟨fun e he => ⟨(hentities e he).1, (hentities e he).2⟩, hinputs, houtputs⟩

end TypedClient
