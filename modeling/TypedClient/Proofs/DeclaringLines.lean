import Mathlib.Tactic.Tauto
import TypedClient.Proofs.Emission
import TypedClient.Proofs.Joining
import TypedClient.Rendition.Script

set_option autoImplicit false

namespace TypedClient

namespace Text

def LineBegins (start text : Text) : Prop := start <+: text ∨ (.char '\n' :: start) <:+: text

instance (start text : Text) : Decidable (LineBegins start text) := inferInstanceAs (Decidable (_ ∨ _))

variable {start text : Text}

theorem lineBegins_append (start rest : Text) : LineBegins start (start ++ rest) := .inl (List.prefix_append _ _)

theorem LineBegins.append (h : LineBegins start text) (rest : Text) : LineBegins start (text ++ rest) :=
  h.imp (·.trans (List.prefix_append _ _)) (·.trans (List.prefix_append _ _).isInfix)

theorem LineBegins.append_newline (h : LineBegins start text) (front : Text) :
    LineBegins start (front ++ "\n" ++ text) := by
  have htext : front ++ "\n" ++ text = front ++ .char '\n' :: text := List.append_assoc _ _ _
  refine .inr ?_
  rw [htext]
  obtain hfirst | hinside := h
  · exact ((List.prefix_cons_inj _).mpr hfirst).isInfix.trans (List.suffix_append _ _).isInfix
  · exact (hinside.trans (List.suffix_cons _ _).isInfix).trans (List.suffix_append _ _).isInfix

/-- The lines of a text are lines of what is put together of it and others, where a line feed ends what stands in
between. -/
theorem LineBegins.intercalate {stem : Text} {texts : List Text} (h : LineBegins start text)
    (hmem : text ∈ texts) : LineBegins start (intercalate (stem ++ "\n") texts) := by
  induction texts with
  | nil => cases hmem
  | cons first rest ih =>
    cases rest with
    | nil =>
      obtain rfl := List.mem_singleton.mp hmem
      rwa [intercalate_singleton]
    | cons second rest =>
      rw [intercalate_cons_cons]
      rcases List.mem_cons.mp hmem with rfl | hmem
      · rw [List.append_assoc]
        exact h.append _
      · have hrest := (ih hmem).append_newline (first ++ stem)
        rwa [List.append_assoc first] at hrest

theorem LineBegins.joinLines {texts : List Text} (h : LineBegins start text) (hmem : text ∈ texts) :
    LineBegins start (joinLines texts) := by
  have hjoined : LineBegins start (Text.intercalate ([] ++ ("\n" : Text)) texts) := h.intercalate hmem
  rwa [List.nil_append] at hjoined

theorem lineBegins_ended (front : List Text) (line next : Text) (rest : List Text) :
    LineBegins (line ++ "\n") (joinLines (front ++ line :: next :: rest)) := by
  induction front with
  | nil =>
    rw [List.nil_append, joinLines_cons]
    exact lineBegins_append _ _
  | cons first front ih =>
    have h := ih.append_newline first
    cases front with
    | nil => rwa [List.nil_append, ← joinLines_cons] at h
    | cons second front => rwa [List.cons_append, ← joinLines_cons] at h

/-- Each of the names is declared by a line that begins with it in one of the forms: a form is what stands before and
after the name. -/
def Declares (forms : List (String × String)) (text : Text) (names : List String) : Prop :=
  ∀ n ∈ names, ∃ form ∈ forms, LineBegins (form.1 ++ n ++ form.2) text

variable {forms : List (String × String)}

theorem Declares.append {names others : List String} (h : Declares forms text names)
    (hothers : Declares forms text others) : Declares forms text (names ++ others) :=
  fun n hn => (List.mem_append.mp hn).elim (h n) (hothers n)

theorem declares_nil (text : Text) : Declares forms text [] := fun _ h => nomatch h

theorem declares_singleton {name : String} (before after : String) (hform : (before, after) ∈ forms)
    (h : LineBegins (before ++ name ++ after) text) : Declares forms text [name] := by
  intro n hn
  obtain rfl := List.mem_singleton.mp hn
  exact ⟨_, hform, h⟩

def anyDeclares (forms : List (String × String)) (lines : List String) (name : String) : Bool :=
  lines.any fun line => forms.any fun form =>
    (form.1.toList ++ (name.toList ++ form.2.toList)).isPrefixOf line.toList

theorem declares_joinLines {lines : List Text} {names : List String} (known : List String)
    (hknown : known.map ofString ⊆ lines) (h : names.all (anyDeclares forms known) = true) :
    Declares forms (joinLines lines) names := by
  intro n hn
  obtain ⟨line, hline, hdeclares⟩ := List.any_eq_true.mp (List.all_eq_true.mp h n hn)
  obtain ⟨form, hform, hprefix⟩ := List.any_eq_true.mp hdeclares
  have hstart : form.1 ++ n ++ form.2 = (form.1.toList ++ (n.toList ++ form.2.toList)).map Letter.char := by
    simp [ofString]
  refine ⟨form, hform, LineBegins.joinLines (.inl ?_) (hknown (List.mem_map_of_mem hline))⟩
  rw [hstart]
  exact (List.isPrefixOf_iff_prefix.mp hprefix).map _

theorem declares_ofLines {names lines : List String} (known : List String) (hknown : known ⊆ lines)
    (h : names.all (anyDeclares forms known) = true) : Declares forms (ofLines lines) names :=
  declares_joinLines known (List.map_subset _ hknown) h

end Text

open Text

theorem Passage.declares_ofLines {forms : List (String × String)} {names lines : List String} (known : List String)
    (hknown : known ⊆ lines) (h : names.all (anyDeclares forms known) = true) :
    Declares forms (ofLines names lines).text (ofLines names lines).declares :=
  Text.declares_ofLines known hknown h

theorem Passage.infix_joined {ps : List Passage} {p : Passage} (hp : p ∈ ps) :
    p.text <:+: Passage.joined ps :=
  infix_intercalate (List.mem_map_of_mem hp)

theorem Passage.lineBegins_joined {ps : List Passage} {p : Passage} (hp : p ∈ ps) {start : Text}
    (h : LineBegins start p.text) : LineBegins start (Passage.joined ps) := by
  have hblank : ("\n\n" : Text) = "\n" ++ "\n" := rfl
  unfold Passage.joined
  rw [hblank]
  exact h.intercalate (List.mem_map_of_mem hp)

/-! ## The type declarations -/

/-- The forms of declarations in the type declarations. What is imported stands on a line of its own. -/
def typeForms : List (String × String) :=
  [("export type ", " = "), ("export type ", "<"), ("export interface ", " \x7b"), ("export declare type ", " = "),
    ("export declare type ", "<"), ("export declare const ", ": "), ("export declare class ", "<"),
    ("export declare function ", "("), ("declare type ", " = "), ("declare type ", "<"),
    ("declare interface ", " extends "), ("declare class ", " \x7b"), ("  ", ","), ("  sqltag as ", ",")]

def Role.form : Role → String × String
  | .value | .select | .include | .args _ => ("export type ", " = ")
  | .payload => ("export type ", "<")
  | .delegate => ("export interface ", " \x7b")
  | .client => ("export declare class ", "<")

theorem Role.form_mem (role : Role) : role.form ∈ typeForms := by
  cases role with
  | args action => exact List.mem_cons_self
  | _ => decide

def Role.opening (role : Role) (entity : String) : Text := role.form.1 ++ identifier role entity ++ role.form.2

theorem ArgsDeclaration.lineBegins_text (a : ArgsDeclaration) :
    LineBegins (Role.opening (.args a.action) a.entity) a.text := by
  have hline : ("\nexport type " : Text) = "\n" ++ "export type " := by decide
  have h := (lineBegins_append (Role.opening (.args a.action) a.entity) (a.shape.render ++ "\n")).append_newline
    (docBlock (a.entity ++ " " ++ a.action.elim "without action" (·.label)))
  unfold text name
  rw [hline]
  simpa only [argsName, Role.opening, Role.form, List.append_assoc] using h

theorem OutputType.lineBegins_selectText (t : OutputType) : LineBegins (Role.opening .select t.name) t.selectText := by
  rw [selectText, List.append_assoc]
  exact lineBegins_append _ _

theorem OutputType.lineBegins_includeText {t : OutputType} (h : t.includeShape.isSome) :
    LineBegins (Role.opening .include t.name) t.includeText := by
  obtain ⟨shape, hshape⟩ := Option.isSome_iff_exists.mp h
  rw [includeText, hshape, Option.elim_some, List.append_assoc]
  exact lineBegins_append _ _

theorem OutputType.lineBegins_clientText (t : OutputType) : LineBegins (Role.opening .client t.name) t.clientText := by
  have hhead : ("<T> implements Promise<T> \x7b\n" : Text) = "<" ++ "T> implements Promise<T> \x7b\n" := by decide
  have h := lineBegins_append (Role.opening .client t.name)
  unfold clientText
  rw [hhead]
  simp only [clientName, Role.opening, Role.form, List.append_assoc] at h ⊢
  exact h _

theorem Payload.lineBegins_text (p : Payload) : LineBegins (Role.opening .payload p.entity) p.text := by
  have hhead : ("<\n" : Text) = "<" ++ "\n" := by decide
  have h := lineBegins_append (Role.opening .payload p.entity)
  unfold text
  rw [hhead]
  simp only [name, payloadName, Role.opening, Role.form, List.append_assoc] at h ⊢
  exact h _

theorem Delegate.lineBegins_text (del : Delegate) : LineBegins (Role.opening .delegate del.entity) del.text := by
  have hhead : (" \x7b\n" : Text) = " \x7b" ++ "\n" := by decide
  have h := lineBegins_append (Role.opening .delegate del.entity)
  unfold text
  rw [hhead]
  simp only [name, delegateName, Role.opening, Role.form, List.append_assoc] at h ⊢
  exact h _

namespace EntityDeclarations

variable {d : Document} {e : Entity} {x : EntityDeclarations}

theorem exists_block (h : d.entityDeclarations e = .ok x) {role : Role} (hrole : role ∈ x.roles) :
    ∃ block ∈ x.blocks, LineBegins (role.opening e.name) block := by
  obtain ⟨rfl, ht, hr, has⟩ := Document.entityDeclarations_eq_ok_iff.mp h
  have hname := (Document.outputType?_eq_some ht).2
  rw [roles] at hrole
  simp only [List.mem_append, List.mem_cons, List.not_mem_nil, or_false, List.mem_map, or_assoc] at hrole
  rcases hrole with rfl | rfl | hinclude | rfl | hdelegate | rfl | ⟨a, ha, rfl⟩
  · refine ⟨"export type " ++ x.entity.name ++ " = " ++ x.entity.valueShape.render ++ "\n", by simp [blocks], ?_⟩
    rw [Role.opening, identifier_value, List.append_assoc _ _ ("\n" : Text)]
    exact lineBegins_append _ _
  · rw [← hname]
    exact ⟨_, by simp [blocks], x.outputType.lineBegins_selectText⟩
  · split at hinclude
    · next hshape =>
      obtain rfl := List.mem_singleton.mp hinclude
      rw [← hname]
      exact ⟨_, by simp [blocks, hshape], OutputType.lineBegins_includeText hshape⟩
    · cases hinclude
  · rw [← hname]
    exact ⟨_, by simp [blocks], x.outputType.payload.lineBegins_text⟩
  · split at hdelegate
    · next hsome =>
      obtain rfl := List.mem_singleton.mp hdelegate
      obtain ⟨del, hdel⟩ := Option.isSome_iff_exists.mp hsome
      rw [hdel] at hr
      obtain ⟨m, -, hmade⟩ := Document.exists_mapping_of_delegate hr
      have hentity : del.entity = x.entity.name := congrArg Delegate.entity hmade
      rw [← hentity]
      exact ⟨del.text, by simp [blocks, hdel], del.lineBegins_text⟩
    · cases hdelegate
  · rw [← hname]
    exact ⟨_, by simp [blocks], x.outputType.lineBegins_clientText⟩
  · rw [← Document.entity_of_mem_entityArgs has ha]
    exact ⟨a.text, List.mem_append_right _ (List.mem_map_of_mem ha), a.lineBegins_text⟩

theorem referring_subset_blocks (x : EntityDeclarations) :
    x.outputType.payload.text :: x.outputType.clientText ::
      ((x.delegate.elim [] fun del => [del.text]) ++ x.args.map (·.text)) ⊆ x.blocks := by
  unfold blocks
  -- what the texts are does not matter, and is long
  generalize x.outputType.payload.text = payload, x.outputType.clientText = client,
    x.outputType.selectText = select, x.outputType.includeText = keys
  intro block hblock
  simp only [List.mem_cons, List.mem_append] at hblock ⊢
  tauto

theorem text_passage (x : EntityDeclarations) : x.passage.text = joinLines x.blocks := by
  unfold passage
  with_reducible rfl

theorem lineBegins_passage (h : d.entityDeclarations e = .ok x) {role : Role} (hrole : role ∈ x.roles) :
    LineBegins (role.opening e.name) x.passage.text := by
  obtain ⟨block, hblock, hbegins⟩ := exists_block h hrole
  rw [text_passage]
  exact hbegins.joinLines hblock

theorem declares_passage (h : d.entityDeclarations e = .ok x) : Declares typeForms x.passage.text x.names := by
  intro n hn
  rw [x.names_eq h] at hn
  obtain ⟨role, hrole, rfl⟩ := List.mem_map.mp hn
  exact ⟨role.form, role.form_mem, lineBegins_passage h hrole⟩

end EntityDeclarations

namespace Document

variable {d : Document}

theorem declares_importPassage (s : Settings) : Declares typeForms (importPassage s).text (importPassage s).declares :=
  Passage.declares_ofLines (["import \x7b", "  DMMF,", "  DMMFClass,", "  Engine,"] ++
    runtimeErrors.map (fun name => "  " ++ name ++ ",") ++ ["  sqltag as sql,", "  empty,", "  join,", "  raw,"])
    (List.append_subset.mpr ⟨List.subset_append_left _ _, List.subset_append_of_subset_right _ (by simp)⟩)
    (by decide +kernel)

theorem declares_versionPassages (s : Settings) :
    ∀ p ∈ versionPassages s, Declares typeForms p.text p.declares := by
  simp only [versionPassages, List.forall_mem_cons, List.not_mem_nil, false_implies, implies_true, and_true]
  exact ⟨declares_joinLines ["export declare type ClientVersion = \x7b"] (by simp) (by decide +kernel),
    declares_ofLines _ (List.Subset.refl _) (by decide +kernel)⟩

theorem declares_utilityPassages (client : String) :
    ∀ p ∈ utilityPassages client, Declares typeForms p.text p.declares := by
  have hfetcher (rest : List String) : Declares typeForms
      (ofLines (["declare class ClientFetcher \x7b"] ++ rest)) ["ClientFetcher"] :=
    declares_ofLines ["declare class ClientFetcher \x7b"] (List.subset_append_left _ _) (by decide +kernel)
  simp only [utilityPassages, List.forall_mem_cons, List.not_mem_nil, false_implies, implies_true, and_true]
  iterate 13 refine ⟨Passage.declares_ofLines _ (List.Subset.refl _) (by decide +kernel), ?_⟩
  exact hfetcher _

theorem declares_optionPassages (client : String) :
    ∀ p ∈ optionPassages client, Declares typeForms p.text p.declares := by
  have hoptions (rest : List String) : Declares typeForms
      (ofLines (("export interface " ++ optionsName client ++ " \x7b") :: rest)) [optionsName client] := by
    refine declares_singleton "export interface " " \x7b" (by decide)
      (LineBegins.joinLines (.inl ?_) List.mem_cons_self)
    simp only [ofString_append, List.prefix_rfl]
  simp only [optionPassages, List.forall_mem_cons, List.not_mem_nil, false_implies, implies_true, and_true]
  refine ⟨Passage.declares_ofLines _ (List.Subset.refl _) (by decide +kernel), hoptions _, ?_⟩
  and_intros <;> exact Passage.declares_ofLines _ (List.Subset.refl _) (by decide +kernel)

theorem declares_datasourcesText (s : Settings) : Declares typeForms s.datasourcesText ["Datasources"] := by
  refine declares_singleton "export type " " = " (by decide) ?_
  unfold Settings.datasourcesText
  dsimp only
  split
  · decide +kernel
  · exact (LineBegins.append (by decide +kernel) _).append _

theorem declares_clientText (d : Document) (s : Settings) : Declares typeForms (d.clientText s) [s.clientName] := by
  have hhead : LineBegins ("export declare class " ++ s.clientName ++ "<") (clientHead s.clientName) := by
    have hbound : ("<T extends " : Text) = "<" ++ "T extends " := rfl
    have h := lineBegins_append ("export declare class " ++ s.clientName ++ "<")
    unfold clientHead
    simp only [ofString_append, hbound, List.append_assoc] at h ⊢
    exact h _
  refine declares_singleton "export declare class " "<" (by decide) ?_
  unfold clientText
  exact (((hhead.append_newline _).append _).append _).append _

theorem declares_enumText (e : Enumeration) : Declares typeForms e.tsText [e.name] := by
  refine declares_singleton "export declare const " ": " (by decide) ?_
  unfold Enumeration.tsText
  iterate 7 refine LineBegins.append ?_ _
  exact lineBegins_append _ _

theorem declares_inputText (t : InputType) : Declares typeForms t.text [t.name] := by
  refine declares_singleton "export type " " = " (by decide) ?_
  unfold InputType.text
  exact lineBegins_append _ _

theorem declares_tsPassagesWith {s : Settings} {xs : List EntityDeclarations}
    (h : d.allDeclarations d.entities = .ok xs) :
    ∀ p ∈ d.tsPassagesWith s xs, Declares typeForms p.text p.declares := by
  have hentities : ∀ p ∈ xs.map (·.passage), Declares typeForms p.text p.declares := by
    rw [allDeclarations_eq, mapM_eq_ok_iff] at h
    intro p hp
    obtain ⟨x, hx, rfl⟩ := List.mem_map.mp hp
    obtain ⟨e, -, hxe⟩ := forall₂_exists_left h hx
    exact x.declares_passage hxe
  have hhead : ∀ p ∈ headPassages s, Declares typeForms p.text p.declares := by
    simp only [headPassages, reexportPassages, List.forall_mem_append, List.forall_mem_cons]
    exact ⟨declares_importPassage s, ⟨⟨declares_nil _, declares_nil _, List.forall_mem_nil _⟩,
      declares_versionPassages s⟩, declares_utilityPassages s.clientName⟩
  have hbatch : Declares typeForms batchPassage.text batchPassage.declares :=
    declares_joinLines _ (List.Subset.refl _) (by decide +kernel)
  have hschema : Declares typeForms schemaPassage.text schemaPassage.declares :=
    declares_joinLines _ (List.Subset.refl _) (by decide +kernel)
  simp only [tsPassagesWith, List.forall_mem_append, List.forall_mem_cons]
  refine ⟨⟨⟨⟨⟨⟨⟨⟨hhead, declares_nil _, declares_datasourcesText s, List.forall_mem_nil _⟩,
    declares_optionPassages s.clientName⟩, declares_clientText d s, declares_nil _, List.forall_mem_nil _⟩, ?_⟩,
    hentities⟩, declares_nil _, List.forall_mem_nil _⟩, ?_⟩, hbatch, hschema, List.forall_mem_nil _⟩
  · exact List.forall_mem_map.mpr fun e _ => declares_enumText e
  · exact List.forall_mem_map.mpr fun t _ => declares_inputText t

/-! ## The script -/

def scriptForms : List (String × String) := [("const ", " = "), ("function ", "("), ("  ", ","), ("  ", "\n")]

def exportForms : List (String × String) := [("exports.", " = ")]

/-- What a passage says that it declares and exports, lines of its text declare and export. -/
def TellsNames (p : Passage) : Prop :=
  Declares scriptForms p.text p.declares ∧ Declares exportForms p.text p.exported

theorem tellsNames_ofLines {names lines : List String} (h : Declares scriptForms (ofLines lines) names) :
    TellsNames (.ofLines names lines) := ⟨h, declares_nil _⟩

theorem tellsNames_scriptHead (s : Settings) : ∀ p ∈ scriptHead s, TellsNames p := by
  have hnames : runtimeErrors ++ runtimeFunctions = runtimeErrors ++ ["getClient", "debugLib"] ++ ["sqltag"] := rfl
  have hdebug : LineBegins ("const " ++ "debug" ++ " = ")
      (ofString ("const debug = debugLib(" ++ Json.quote s.clientName ++ ")")) := by
    rw [ofString_append, ofString_append]
    exact (LineBegins.append (by decide +kernel) _).append _
  simp only [scriptHead, List.forall_mem_cons]
  refine ⟨tellsNames_ofLines (declares_nil _), tellsNames_ofLines ?_, tellsNames_ofLines ?_,
    tellsNames_ofLines (declares_nil _), ⟨declares_nil _, ?_⟩, ⟨declares_nil _, ?_⟩, ⟨declares_nil _, ?_⟩,
    List.forall_mem_nil _⟩
  · rw [hnames]
    refine Declares.append (declares_ofLines (["const \x7b"] ++ runtimeErrors.map (fun name => "  " ++ name ++ ",") ++
      ["  getClient,", "  debugLib,"]) ?_ (by decide +kernel)) ?_
    · exact List.append_subset.mpr
        ⟨List.subset_append_left _ _, List.subset_append_of_subset_right _ (by simp)⟩
    · exact declares_singleton "  " "\n" (by decide) (lineBegins_ended (["const \x7b"] ++
        runtimeErrors.map (fun name => "  " ++ name ++ ",") ++ ["  getClient,", "  debugLib,"]) "  sqltag" _ [])
  · change Declares _ _ (["path"] ++ ["debug"])
    refine Declares.append (declares_ofLines ["const path = require('path')"] (by simp) rfl) ?_
    exact declares_singleton "const " " = " (by decide) (hdebug.joinLines (by simp))
  · exact declares_ofLines ["exports.clientVersion = \x7b"] (by simp) rfl
  · exact declares_ofLines _ (List.Subset.refl _) (by decide +kernel)
  · exact declares_ofLines _ (List.Subset.refl _) (by decide +kernel)

theorem tellsNames_bootstrapPassages (client : String) (schema config : Text) :
    ∀ p ∈ bootstrapPassages client schema config, TellsNames p := by
  have hschema : LineBegins ("const " ++ "dmmfString" ++ " = ")
      (ofString ("const dmmfString = " ++ Json.quote schema)) := by
    rw [ofString_append]
    exact LineBegins.append (by decide +kernel) _
  have hconfig : LineBegins ("const " ++ "config" ++ " = ") ("const config = " ++ config) :=
    LineBegins.append (by decide +kernel) _
  have hclient : LineBegins ("const " ++ client ++ " = ")
      (ofString ("const " ++ client ++ " = getClient(config)")) := by
    have hcall : (" = getClient(config)" : Text) = " = " ++ "getClient(config)" := rfl
    rw [ofString_append, ofString_append, hcall, ← List.append_assoc]
    exact lineBegins_append _ _
  simp only [bootstrapPassages, List.forall_mem_cons]
  refine ⟨tellsNames_ofLines ?_, ⟨?_, ?_⟩, tellsNames_ofLines (declares_nil _), ⟨?_, declares_nil _⟩, ⟨?_, ?_⟩,
    List.forall_mem_nil _⟩
  · exact declares_singleton "const " " = " (by decide) (hschema.joinLines (by simp))
  · exact declares_ofLines _ (List.Subset.refl _) (by decide +kernel)
  · exact declares_ofLines _ (List.Subset.refl _) (by decide +kernel)
  · exact declares_singleton "const " " = " (by decide) (hconfig.joinLines (by simp))
  · exact declares_singleton "const " " = " (by decide) (hclient.joinLines (by simp))
  · exact declares_singleton "exports." " = " (by decide)
      (LineBegins.joinLines (lineBegins_append _ client) (by simp))

theorem tellsNames_jsPassage (e : Enumeration) : TellsNames e.jsPassage := by
  refine ⟨declares_nil _, declares_singleton "exports." " = " (by decide) ?_⟩
  have hcall : (" = makeEnum(" : Text) = " = " ++ "makeEnum(" := rfl
  unfold Enumeration.jsPassage Enumeration.jsText
  rw [hcall, ← List.append_assoc _ (" = " : Text)]
  exact ((lineBegins_append _ _).append _).append _

theorem tellsNames_jsPassagesWith (d : Document) (s : Settings) (config : Json) :
    ∀ p ∈ d.jsPassagesWith s config, TellsNames p := by
  have hbundler : ∀ p ∈ bundlerPassages s, TellsNames p := by
    simp only [bundlerPassages, List.forall_mem_cons]
    exact ⟨tellsNames_ofLines (declares_nil _), tellsNames_ofLines (declares_nil _), List.forall_mem_nil _⟩
  have hprelude : TellsNames enumPrelude :=
    tellsNames_ofLines (declares_ofLines _ (List.Subset.refl _) (by decide +kernel))
  simp only [jsPassagesWith, List.forall_mem_append, List.forall_mem_singleton]
  exact ⟨⟨⟨⟨tellsNames_scriptHead s, hbundler⟩, hprelude⟩, List.forall_mem_map.mpr fun e _ => tellsNames_jsPassage e⟩,
    tellsNames_bootstrapPassages _ _ _⟩

end Document

end TypedClient
