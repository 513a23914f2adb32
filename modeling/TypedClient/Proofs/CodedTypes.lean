import TypedClient.Proofs.Coded
import TypedClient.Proofs.Emission

set_option autoImplicit false

namespace TypedClient

open Text (isWhole isWhole_append isWhole_ofString isWhole_ofLines isWhole_joinLines isWhole_indent isWhole_docBlock)

open TypeExpr (Coded MemberCoded coded_ref coded_unionOf coded_orNull coded_object isWhole_render)

/-! ## What is declared for a record type -/

theorem OutputField.coded_relationSelector (f : OutputField) : Coded f.relationSelector := by
  refine coded_unionOf ?_
  simp only [List.forall_mem_cons]
  exact ⟨coded_ref _, coded_ref _, List.forall_mem_nil _⟩

theorem OutputType.isWhole_selectText (t : OutputType) : isWhole t.selectText = true := by
  have hshape : Coded t.selectShape := by
    refine coded_object (List.forall_mem_map.mpr fun f _ => ⟨?_, codedNote_none⟩)
    dsimp only
    split
    · exact f.coded_relationSelector
    · exact coded_ref _
  simp only [selectText, isWhole_append, isWhole_ofString, isWhole_render _ hshape, Bool.and_true]

theorem OutputType.isWhole_includeText (t : OutputType) : isWhole t.includeText = true := by
  unfold includeText includeShape
  split
  · rfl
  · have hshape : Coded (.object (t.relations.map fun f => ⟨f.name, f.relationSelector, true, none⟩) (some t.name)) :=
      coded_object (List.forall_mem_map.mpr fun f _ => ⟨f.coded_relationSelector, codedNote_none⟩)
    simp only [Option.elim_some, isWhole_append, isWhole_ofString, isWhole_render _ hshape, Bool.and_true]

namespace Payload

theorem coded_payloadRef (b : Branch) (way : Projection) : Coded (b.payloadRef way) := by
  have hinner : Coded (.generic (payloadName b.target) [.ref ("S['" ++ way.key ++ "'][P]")]) := by
    rw [Coded, TypeExpr.allCoded_iff, List.forall_mem_singleton]
    exact coded_ref _
  rw [Branch.payloadRef, Branch.wrap]
  split
  · rw [Coded]
    exact hinner
  · split
    · exact hinner
    · exact coded_orNull hinner

variable (p : Payload)

theorem isWhole_chainLines (way : Projection) : ∀ line ∈ p.chainLines way, isWhole line = true := by
  rw [chainLines, List.forall_mem_append, List.forall_mem_flatMap, List.forall_mem_singleton]
  refine ⟨fun b _ => ?_, isWhole_ofString _⟩
  simp only [List.forall_mem_cons, answerLine, isWhole_append, isWhole_ofString,
    isWhole_render _ (coded_payloadRef b way), Bool.and_true, true_and]
  exact List.forall_mem_nil _

theorem isWhole_mapping (way : Projection) : isWhole (p.mapping way) = true := by
  have hmoved : ∀ line, isWhole line = true → isWhole ("  " ++ line) = true := fun line hline => by
    rw [isWhole_append, hline, isWhole_ofString, Bool.and_true]
  have hlines : ∀ line ∈ p.mappingLines way, isWhole line = true := by
    match way with
    | .select =>
      rw [mappingLines, List.forall_mem_cons, List.forall_mem_cons, List.forall_mem_map]
      exact ⟨by simp, by simp, fun line hline => hmoved line (p.isWhole_chainLines .select line hline)⟩
    | .include =>
      unfold mappingLines
      dsimp only
      split
      · exact List.forall_mem_nil _
      · next first rest heq =>
        have hall := p.isWhole_chainLines .include
        rw [heq, List.forall_mem_cons] at hall
        rw [List.forall_mem_cons, List.forall_mem_map, isWhole_append, isWhole_ofString,
          Text.isWhole_of_subset hall.1 (List.drop_subset 2 _)]
        exact ⟨rfl, fun line hline => hmoved line (hall.2 line hline)⟩
  unfold mapping
  split
  · rfl
  · simp only [isWhole_append, isWhole_ofString, isWhole_indent 2 (isWhole_joinLines hlines), Bool.and_true]

theorem isWhole_hanging {t : Text} (h : isWhole t = true) : isWhole (hanging t) = true :=
  Text.isWhole_of_subset (isWhole_indent 6 h) (List.dropWhile_sublist _).subset

theorem isWhole_text : isWhole p.text = true := by
  have hhanging (way : Projection) := isWhole_hanging (p.isWhole_mapping way)
  have hinclude : isWhole p.includeType = true := by
    unfold includeType
    dsimp only
    split
    · exact isWhole_ofString _
    · simp only [isWhole_append, isWhole_ofString, hhanging, Bool.and_true]
  unfold text
  simp only [isWhole_append, isWhole_ofString, hhanging, hinclude, Bool.and_true]

end Payload

theorem OutputType.isWhole_clientText (t : OutputType) : isWhole t.clientText = true := by
  simp only [clientText, isWhole_append, isWhole_ofString, isWhole_indent 2 (isWhole_ofLines _), Bool.and_true]

theorem isWhole_methodDoc (action : Action) (m : Mapping) (e : Entity) : isWhole (methodDoc action m e) = true := by
  refine Text.isWhole_of_subset (isWhole_ofLines ((methodWording action m e).lines action)) fun l hl => ?_
  rw [methodDoc, withoutFinalBreaks, List.mem_reverse] at hl
  exact List.mem_reverse.mp ((List.dropWhile_sublist _).subset hl)

theorem Document.isWhole_delegate {d : Document} {e : Entity} {del : Delegate} (h : d.delegate e = .ok (some del)) :
    isWhole del.text = true := by
  obtain ⟨m, hm, rfl⟩ := exists_mapping_of_delegate h
  have hlines : ∀ line ∈ ((m.actions.filter (·.isMethod)).map (e.delegateMethod m)).map (·.text) ++
      [Delegate.countText ⟨e.name, (m.actions.filter (·.isMethod)).map (e.delegateMethod m), e.countArgs m⟩],
      isWhole line = true := by
    rw [List.forall_mem_append, List.forall_mem_singleton, List.forall_mem_map, List.forall_mem_map]
    refine ⟨fun action _ => ?_, by simp [Delegate.countText]⟩
    simp only [Entity.delegateMethod, DelegateMethod.text, isWhole_append, isWhole_ofString,
      isWhole_docBlock (isWhole_methodDoc action m e), Bool.and_true]
  simp only [Delegate.text, isWhole_append, isWhole_ofString, isWhole_indent 2 (isWhole_joinLines hlines),
    Bool.and_true]

theorem Argument.codedNote_described {a : Argument} (h : CodedNote a.comment) (entity : String)
    (action : Option Action) : CodedNote (a.described entity action).comment := by
  unfold Argument.described
  split
  · exact codedNote_some.mpr (isWhole_ofString _)
  · exact h

theorem Entity.codedNote_argsDeclaration (e : Entity) (action : Option Action) {declared : List Argument}
    (h : ∀ a ∈ declared, CodedNote a.comment) :
    ∀ a ∈ (e.argsDeclaration action declared).args, CodedNote a.comment := by
  have hselector (name type comment : String) : CodedNote (selectorArgument name type comment).comment :=
    codedNote_some.mpr (isWhole_ofString _)
  unfold argsDeclaration
  split
  · exact h
  · rw [List.forall_mem_cons, List.forall_mem_append, List.forall_mem_map]
    refine ⟨hselector _ _ _, ?_, fun a ha => Argument.codedNote_described (h a ha) e.name action⟩
    split
    · exact List.forall_mem_singleton.mpr (hselector _ _ _)
    · exact List.forall_mem_nil _

theorem ArgsDeclaration.isWhole_text {a : ArgsDeclaration} (h : ∀ arg ∈ a.args, CodedNote arg.comment) :
    isWhole a.text = true := by
  have hshape : Coded a.shape :=
    coded_object (List.forall_mem_map.mpr fun arg harg => Argument.member_coded (h arg harg))
  have hdoc : isWhole (a.entity ++ " " ++ a.action.elim "without action" (·.label)) = true := by simp
  simp only [text, isWhole_append, isWhole_ofString, isWhole_docBlock hdoc, isWhole_render _ hshape, Bool.and_true]

theorem Document.isWhole_entityArgs {d : Document} {e : Entity} {as : List ArgsDeclaration} (hd : d.Coded)
    (h : d.entityArgs e = .ok as) : ∀ a ∈ as, isWhole a.text = true := by
  intro a ha
  obtain rfl | ⟨m, -, s, -, root, hroot, rfl⟩ := (mem_entityArgs_iff h).mp ha
  · exact ArgsDeclaration.isWhole_text (e.codedNote_argsDeclaration none (List.forall_mem_nil _))
  · obtain ⟨_, -, t, ht, hfield⟩ := mem_rootFields_iff.mp (List.mem_of_find?_eq_some hroot)
    exact ArgsDeclaration.isWhole_text
      (e.codedNote_argsDeclaration _ (hd.outputs t (outputType?_eq_some ht).1 root hfield))

theorem EntityDeclarations.isWhole_doc {x : EntityDeclarations} (h : CodedNote x.entity.documentation) :
    isWhole x.doc = true := by
  unfold doc
  rw [isWhole_append, isWhole_append, isWhole_ofString, isWhole_ofString]
  split
  · rfl
  · rfl
  · next note _ hnote => rw [isWhole_append, isWhole_ofString, h note hnote]; rfl

theorem EntityDeclarations.isWhole_blocks {x : EntityDeclarations} (he : x.entity.Coded)
    (hdelegate : ∀ del, x.delegate = some del → isWhole del.text = true)
    (hargs : ∀ a ∈ x.args, isWhole a.text = true) : ∀ block ∈ x.blocks, isWhole block = true := by
  have hvalue : isWhole ("export type " ++ x.entity.name ++ " = " ++ x.entity.valueShape.render ++ "\n") = true := by
    simp only [isWhole_append, isWhole_ofString, isWhole_render _ (Entity.coded_valueShape he.fields), Bool.and_true]
  have hinclude : ∀ block ∈ if x.outputType.includeShape.isSome then [x.outputType.includeText] else [],
      isWhole block = true := by
    split
    · exact List.forall_mem_singleton.mpr x.outputType.isWhole_includeText
    · exact List.forall_mem_nil _
  have hmethods : ∀ block ∈ x.delegate.elim [] fun del => [del.text], isWhole block = true := by
    cases hdel : x.delegate with
    | none => exact List.forall_mem_nil _
    | some del => exact List.forall_mem_singleton.mpr (hdelegate del hdel)
  unfold blocks
  rw [List.forall_mem_append, List.forall_mem_append, List.forall_mem_append, List.forall_mem_append,
    List.forall_mem_append, List.forall_mem_cons, List.forall_mem_cons, List.forall_mem_singleton,
    List.forall_mem_singleton, List.forall_mem_cons, List.forall_mem_singleton, List.forall_mem_map]
  exact ⟨⟨⟨⟨⟨⟨isWhole_docBlock (isWhole_doc he.note), hvalue, x.outputType.isWhole_selectText⟩, hinclude⟩,
    x.outputType.payload.isWhole_text⟩, hmethods⟩, x.outputType.isWhole_clientText, isWhole_ofString _⟩, hargs⟩

theorem Document.isWhole_allDeclarations {d : Document} {xs : List EntityDeclarations} (hd : d.Coded)
    (h : d.allDeclarations d.entities = .ok xs) : ∀ x ∈ xs, isWhole x.passage.text = true := by
  intro x hx
  rw [allDeclarations_eq, mapM_eq_ok_iff] at h
  obtain ⟨e, he, hxe⟩ := forall₂_exists_left h hx
  obtain ⟨rfl, -, hdelegate, hargs⟩ := entityDeclarations_eq_ok_iff.mp hxe
  refine isWhole_joinLines (EntityDeclarations.isWhole_blocks (hd.entities _ he) (fun del hdel => ?_)
    (isWhole_entityArgs hd hargs))
  rw [hdel] at hdelegate
  exact isWhole_delegate hdelegate

/-! ## The client class and the fixed passages -/

def Settings.stamps (s : Settings) : List Text := s.clientVersion :: s.engineVersion :: s.datasources

theorem isWhole_fixedMembers {doc : Text} (h : isWhole doc = true) :
    ∀ member ∈ fixedMembers doc, isWhole member.text = true := by
  simp [fixedMembers, h]

namespace Document

variable {d : Document} {s : Settings}

theorem isWhole_clientText (d : Document) (s : Settings) : isWhole (d.clientText s) = true := by
  have hdoc : isWhole (clientDoc s.clientName d.usedMappings) = true := isWhole_ofLines _
  have hmembers : ∀ line ∈ (d.clientMembers s).map (·.text), isWhole line = true := by
    rw [List.forall_mem_map, clientMembers, List.forall_mem_append, List.forall_mem_map]
    exact ⟨isWhole_fixedMembers hdoc, fun m _ => isWhole_ofLines _⟩
  simp only [clientText, isWhole_append, isWhole_ofString, hdoc, isWhole_indent 2 (isWhole_joinLines hmembers),
    Bool.and_true]

theorem isWhole_datasourcesText (hs : ∀ t ∈ s.stamps, isWhole t = true) : isWhole s.datasourcesText = true := by
  have hmembers : ∀ line ∈ s.datasources.map (· ++ ("?: string" : Text)), isWhole line = true := by
    refine List.forall_mem_map.mpr fun name hname => ?_
    rw [isWhole_append, hs name (List.mem_cons_of_mem _ (List.mem_cons_of_mem _ hname)), isWhole_ofString]
    rfl
  unfold Settings.datasourcesText
  dsimp only
  split
  · exact isWhole_ofString _
  · simp only [isWhole_append, isWhole_ofString, isWhole_indent 2 (isWhole_joinLines hmembers), Bool.and_true]

theorem isWhole_headPassages (hs : ∀ t ∈ s.stamps, isWhole t = true) :
    ∀ p ∈ headPassages s, isWhole p.text = true := by
  have hclient := hs s.clientVersion List.mem_cons_self
  have hengine := hs s.engineVersion (List.mem_cons_of_mem _ List.mem_cons_self)
  have hversion : ∀ p ∈ versionPassages s, isWhole p.text = true := by
    simp only [versionPassages, List.forall_mem_cons]
    refine ⟨isWhole_joinLines ?_, Passage.isWhole_ofLines _ _, List.forall_mem_nil _⟩
    simp [hclient, hengine]
  have hutility : ∀ p ∈ utilityPassages s.clientName, isWhole p.text = true := by
    simp only [utilityPassages, List.forall_mem_cons, Passage.isWhole_ofLines, true_and]
    exact List.forall_mem_nil _
  rw [headPassages, List.forall_mem_cons, List.forall_mem_append, List.forall_mem_append]
  exact ⟨Passage.isWhole_ofLines _ _, ⟨by simp [reexportPassages], hversion⟩, hutility⟩

theorem isWhole_optionPassages (client : String) : ∀ p ∈ optionPassages client, isWhole p.text = true := by
  simp only [optionPassages, List.forall_mem_cons, Passage.isWhole_ofLines, true_and]
  exact List.forall_mem_nil _

theorem isWhole_tsText (hd : d.Coded) (hs : ∀ t ∈ s.stamps, isWhole t = true) {ts : Text} (h : d.tsText s = .ok ts) :
    isWhole ts = true := by
  obtain ⟨xs, hxs, rfl⟩ := tsText_eq_ok_iff.mp h
  have henum (e : Enumeration) : isWhole e.tsText = true := by
    simp only [Enumeration.tsText, isWhole_append, isWhole_ofString, e.isWhole_objectText, Bool.and_true]
  refine Passage.isWhole_joined ?_
  simp only [tsPassagesWith, List.forall_mem_append, List.forall_mem_cons, List.forall_mem_map]
  exact ⟨⟨⟨⟨⟨⟨⟨⟨isWhole_headPassages hs, Passage.isWhole_ofLines _ _, isWhole_datasourcesText hs,
    List.forall_mem_nil _⟩, isWhole_optionPassages s.clientName⟩, isWhole_clientText d s, Passage.isWhole_ofLines _ _,
    List.forall_mem_nil _⟩, fun e _ => henum e⟩, isWhole_allDeclarations hd hxs⟩, Passage.isWhole_ofLines _ _,
    List.forall_mem_nil _⟩, fun t ht => InputType.isWhole_text (hd.inputs t ht)⟩, Passage.isWhole_ofLines _ _,
    Passage.isWhole_ofLines _ _, List.forall_mem_nil _⟩

end Document

end TypedClient
