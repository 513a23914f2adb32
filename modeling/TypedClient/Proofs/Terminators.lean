import TypedClient.Declaration.RootClient
import TypedClient.Proofs.Casing
import TypedClient.Proofs.Distinct
import TypedClient.Rendition.Preamble

set_option autoImplicit false

namespace TypedClient

namespace Text

def terminators : Text → Nat
  | [] => 0
  | l :: rest => (if l = .char '*' ∧ rest.head? = some (.char '/') then 1 else 0) + terminators rest

def terminatorTotal (parts : List Text) : Nat := parts.foldr (fun t n => terminators t + n) 0

variable {xs ys sep : Text}

theorem terminators_eq_zero (h : .char '*' ∉ xs) : terminators xs = 0 := by
  induction xs with
  | nil => rfl
  | cons l xs ih =>
    rw [List.mem_cons, not_or] at h
    rw [terminators, ih h.2, if_neg fun hopens => h.1 hopens.1.symm]

theorem terminators_append (h : xs.getLast? ≠ some (.char '*') ∨ ys.head? ≠ some (.char '/')) :
    terminators (xs ++ ys) = terminators xs + terminators ys := by
  induction xs with
  | nil => simp [terminators]
  | cons l xs ih =>
    rw [List.cons_append, terminators, terminators]
    cases xs with
    | nil =>
      have hmeet : ¬ (l = .char '*' ∧ ys.head? = some (.char '/')) := by simpa [or_iff_not_imp_left] using h
      simp [hmeet, terminators]
    | cons x xs =>
      rw [ih (by simpa using h), List.cons_append, List.head?_cons, List.head?_cons, Nat.add_assoc]

/-- No terminator lies over an edge of the text. -/
def Seals (middle : Text) : Prop :=
  middle.head?.all (· != .char '/') = true ∧ middle.getLast?.any (· != .char '*') = true

instance (middle : Text) : Decidable (Seals middle) := inferInstanceAs (Decidable (_ ∧ _))

theorem terminators_around {middle : Text} (h : Seals middle) (front back : Text) :
    terminators (front ++ middle ++ back) = terminators front + terminators middle + terminators back := by
  obtain ⟨hfirst, hlast⟩ := h
  have hhead : middle.head? ≠ some (.char '/') := fun heq => by simp [heq] at hfirst
  obtain ⟨l, hl, hstar⟩ := (Option.any_eq_true _ _).mp hlast
  have hend : (front ++ middle).getLast? ≠ some (.char '*') := by
    rw [List.getLast?_append, hl, Option.some_or]
    exact fun heq => by simp [Option.some.inj heq] at hstar
  rw [terminators_append (.inl hend), terminators_append (.inr hhead)]

theorem terminatorTotal_cons (t : Text) (parts : List Text) :
    terminatorTotal (t :: parts) = terminators t + terminatorTotal parts := rfl

theorem terminatorTotal_singleton (t : Text) : terminatorTotal [t] = terminators t := rfl

theorem terminatorTotal_append (parts others : List Text) :
    terminatorTotal (parts ++ others) = terminatorTotal parts + terminatorTotal others := by
  induction parts with
  | nil => rw [List.nil_append, terminatorTotal, terminatorTotal, List.foldr_nil, Nat.zero_add]
  | cons t parts ih => rw [List.cons_append, terminatorTotal_cons, terminatorTotal_cons, ih, Nat.add_assoc]

/-- Texts with the separator between them neither gain a terminator nor lose one. -/
def Separates (sep : Text) : Prop := .char '*' ∉ sep ∧ ∃ l ∈ sep.head?, l ≠ .char '/'

theorem separates_newline : Separates "\n" := ⟨by decide, .char '\n', rfl, by decide⟩

theorem separates_blankLine : Separates "\n\n" := ⟨by decide, .char '\n', rfl, by decide⟩

theorem terminators_intercalate (hsep : Separates sep) (parts : List Text) :
    terminators (intercalate sep parts) = terminatorTotal parts := by
  obtain ⟨hstar, l, hl, hslash⟩ := hsep
  have hlast : sep.getLast? ≠ some (.char '*') := fun hlast => hstar (List.mem_of_getLast? hlast)
  induction parts with
  | nil => rfl
  | cons x parts ih =>
    cases parts with
    | nil => simp [terminatorTotal]
    | cons y parts =>
      have hhead : (sep ++ sep.intercalate (y :: parts)).head? ≠ some (.char '/') := by
        simp [List.head?_append, Option.mem_def.mp hl, hslash]
      rw [intercalate, List.intercalate_cons_cons, List.append_assoc, terminators_append (.inr hhead),
        terminators_append (.inl hlast), terminators_eq_zero hstar, ih, Nat.zero_add]
      rfl

theorem terminators_between (hsep : Separates sep) (front back : List Text) {middle middle' : List Text} {n : Nat}
    (h : terminatorTotal middle = terminatorTotal middle' + n) :
    terminators (intercalate sep (front ++ middle ++ back)) =
      terminators (intercalate sep (front ++ middle' ++ back)) + n := by
  simp only [terminators_intercalate hsep, terminatorTotal_append, h]
  omega

theorem terminators_joinLines (ls : List Text) : terminators (joinLines ls) = terminatorTotal ls :=
  terminators_intercalate separates_newline ls

theorem terminators_joinLines_between (front back : List Text) {middle middle' : List Text} {n : Nat}
    (h : terminatorTotal middle = terminatorTotal middle' + n) :
    terminators (joinLines (front ++ middle ++ back)) =
      terminators (joinLines (front ++ middle' ++ back)) + n :=
  terminators_between separates_newline front back h

theorem terminators_indent (size : Nat) (t : Text) : terminators (indent size t) = terminators t := by
  have hline (l : Text) : terminators (indentLine size l) = terminators l := by
    have hblanks : .char '*' ∉ List.replicate size (Letter.char ' ') := by simp
    unfold indentLine
    split
    · rfl
    · rw [terminators_append (.inl fun hlast => hblanks (List.mem_of_getLast? hlast)), terminators_eq_zero hblanks,
        Nat.zero_add]
  rw [indent, terminators_joinLines, terminatorTotal, List.foldr_map]
  simp only [hline]
  rw [← terminatorTotal, ← terminators_joinLines, joinLines_lines]

/-! ## Case -/

theorem star_lt_upperRuns : ∀ r ∈ upperRuns, 0x2A < r.first + r.shift := by
  decide +kernel

theorem star_lt_lowerRuns : ∀ r ∈ lowerRuns, 0x2A < r.first + r.shift := by
  decide +kernel

theorem star_notMem_mapCase {runs : List CaseRun} {expansions : List (Nat × List Nat)}
    (hruns : ∀ r ∈ runs, 0x2A < r.first + r.shift) (hexpansions : ∀ e ∈ expansions, '*' ∉ e.2.map Char.ofNat)
    {c : Char} (hc : c ≠ '*') : '*' ∉ mapCase runs expansions c := by
  unfold mapCase
  split
  · next e he => exact hexpansions e (List.mem_of_find?_eq_some he)
  · split
    · next r hr =>
      have hrun := hruns r (List.mem_of_find?_eq_some hr)
      have hcovers := CaseRun.bounds_of_covers (by simpa using List.find?_some hr)
      have hcode := toNat_ofNat_cases ((c.toNat : Int) + r.shift).toNat
      intro hmem
      rw [← List.mem_singleton.mp hmem, show '*'.toNat = 0x2A from rfl] at hcode
      omega
    · simpa using Ne.symm hc

theorem terminators_recased {f : Char → List Char} (hstar : f '*' = ['*']) (hother : ∀ c, c ≠ '*' → '*' ∉ f c)
    (c : Char) (rest : List Char) :
    terminators (String.ofList (f c ++ rest)) = terminators (String.ofList (c :: rest)) := by
  rw [ofString_ofList, ofString_ofList, List.map_append, List.map_cons]
  by_cases hc : c = '*'
  · rw [hc, hstar, List.map_singleton, List.singleton_append]
  · have hnone : .char '*' ∉ (f c).map Letter.char := by simpa using hother c hc
    rw [terminators_append (.inl fun hlast => hnone (List.mem_of_getLast? hlast)), terminators_eq_zero hnone,
      terminators, if_neg fun hopens => hc (Letter.char.inj hopens.1)]

theorem terminators_capitalize (s : String) : terminators (capitalize s) = terminators s := by
  rw [capitalize, ← String.ofList_toList (s := s)]
  cases s.toList with
  | nil => rfl
  | cons c rest =>
    rw [String.toList_ofList]
    exact terminators_recased (by decide +kernel)
      (fun c hc => star_notMem_mapCase star_lt_upperRuns (by decide +kernel) hc) c rest

theorem terminators_uncapitalize (s : String) : terminators (uncapitalize s) = terminators s := by
  rw [uncapitalize, ← String.ofList_toList (s := s)]
  cases s.toList with
  | nil => rfl
  | cons c rest =>
    rw [String.toList_ofList]
    exact terminators_recased (by decide +kernel)
      (fun c hc => star_notMem_mapCase star_lt_lowerRuns (by decide +kernel) hc) c rest

end Text

open Text

/-! ## The head of the type declarations -/

namespace Settings

def withoutVersions (s : Settings) : Settings := { s with clientVersion := "", engineVersion := "" }

def versionTerminators (s : Settings) : Nat := terminators s.clientVersion + terminators s.engineVersion

def headText (s : Settings) : Text := Passage.joined (headPassages s)

def stampLines (s : Settings) : List Text :=
  [" * Client version: " ++ s.clientVersion, " * Query engine version: " ++ s.engineVersion]

theorem terminatorTotal_stampLines (s : Settings) : terminatorTotal s.stampLines = s.versionTerminators := by
  have hclient (v : Text) : terminators (" * Client version: " ++ v) = terminators v := by
    rw [terminators_append (.inl (by decide))]
    exact Nat.zero_add _
  have hengine (v : Text) : terminators (" * Query engine version: " ++ v) = terminators v := by
    rw [terminators_append (.inl (by decide))]
    exact Nat.zero_add _
  rw [stampLines, terminatorTotal_cons, terminatorTotal_singleton, hclient, hengine, versionTerminators]

def stampText (s : Settings) : Text :=
  joinLines ((["/**"] : List Text) ++ s.stampLines ++
    ([" */", "export declare type ClientVersion = \x7b", "  client: string", "  engine: string", "\x7d"] : List Text))

theorem headText_eq (s : Settings) : s.headText =
    intercalate "\n\n" ((importPassage s :: reexportPassages).map (·.text) ++ [s.stampText]
      ++ ("export declare const clientVersion: ClientVersion" :: (utilityPassages s.clientName).map (·.text) :
        List Text)) := by
  rw [headText, Passage.joined, headPassages]
  rfl

theorem terminators_headText (s : Settings) :
    terminators s.headText = terminators s.withoutVersions.headText + s.versionTerminators := by
  have hnone : s.withoutVersions.versionTerminators = 0 := rfl
  have hlines : terminatorTotal s.stampLines =
      terminatorTotal s.withoutVersions.stampLines + s.versionTerminators := by
    rw [terminatorTotal_stampLines, terminatorTotal_stampLines, hnone, Nat.zero_add]
  have hstamp : terminators s.stampText = terminators s.withoutVersions.stampText + s.versionTerminators :=
    terminators_joinLines_between _ _ hlines
  rw [headText_eq, headText_eq]
  refine terminators_between separates_blankLine _ _ ?_
  rw [terminatorTotal_singleton, terminatorTotal_singleton, hstamp]

end Settings

/-! ## The client class -/

namespace Mapping

def withoutPlural (m : Mapping) : Mapping := { m with plural := "" }

def listingLines (m : Mapping) : List Text := m.listingExample.map ofString

theorem terminatorTotal_listingLines (m : Mapping) : terminatorTotal m.listingLines =
    terminatorTotal m.withoutPlural.listingLines + 2 * terminators m.plural := by
  have hfetch (t : Text) : terminators (" * // Fetch zero or more " ++ t) = terminators t := by
    rw [terminators_append (.inl (by decide))]
    exact Nat.zero_add _
  have hconst (t rest : Text) : terminators (" * const " ++ t ++ " = await client." ++ rest ++ ".findMany()") =
      terminators t + terminators rest := by
    rw [terminators_append (.inr (by decide)), terminators_around (by decide), terminators_append (.inl (by decide)),
      show terminators " * const " = 0 from rfl, show terminators " = await client." = 0 from rfl,
      show terminators ".findMany()" = 0 from rfl, Nat.zero_add, Nat.add_zero, Nat.add_zero]
  have hempty : terminators "" = 0 := rfl
  simp only [listingLines, listingExample, getterName, List.map_cons, List.map_nil, ofString_append,
    terminatorTotal_cons, hfetch, hconst, terminators_capitalize, terminators_uncapitalize, withoutPlural, hempty]
  omega

theorem terminators_getter (m : Mapping) :
    terminators m.getter.text = terminators m.withoutPlural.getter.text + 2 * terminators m.plural := by
  have hname : m.withoutPlural.getterName = m.getterName := rfl
  have hentity : m.withoutPlural.entity = m.entity := rfl
  rw [getter, getter, hname, hentity]
  simp only [ofLines, List.map_append]
  exact terminators_joinLines_between _ _ m.terminatorTotal_listingLines

theorem terminatorTotal_getters (mappings : List Mapping) :
    terminatorTotal (mappings.map (·.getter.text)) =
      terminatorTotal ((mappings.map (·.withoutPlural)).map (·.getter.text))
        + 2 * terminatorTotal (mappings.map (·.plural)) := by
  induction mappings with
  | nil => rfl
  | cons m mappings ih =>
    simp only [List.map_cons, terminatorTotal_cons, ih, m.terminators_getter]
    omega

end Mapping

theorem clientDoc_cons (client : String) (m : Mapping) (rest : List Mapping) :
    clientDoc client (m :: rest) = joinLines
      (["/**", " * ##  " ++ client, " *", " * Type-safe database client.", " * @example", " * ```",
          " * const client = new " ++ client ++ "()"].map ofString
        ++ m.listingLines ++ [" * ```", " */"].map ofString) := by
  simp only [clientDoc, ofLines, Mapping.listingLines, ← List.map_append, List.append_assoc, List.cons_append,
    List.nil_append]

theorem terminators_clientDoc (client : String) (mappings : List Mapping) :
    terminators (clientDoc client mappings) =
      terminators (clientDoc client (mappings.map (·.withoutPlural)))
        + 2 * terminatorTotal ((mappings.take 1).map (·.plural)) := by
  cases mappings with
  | nil => rw [List.map_nil, List.take_nil, List.map_nil, terminatorTotal, List.foldr_nil, Nat.mul_zero, Nat.add_zero]
  | cons m rest =>
    rw [List.take_succ_cons, List.take_zero, List.map_singleton, terminatorTotal_singleton, List.map_cons,
      clientDoc_cons, clientDoc_cons]
    exact terminators_joinLines_between _ _ m.terminatorTotal_listingLines

theorem map_text_members (doc : Text) (mappings : List Mapping) :
    (fixedMembers doc ++ mappings.map (·.getter)).map (·.text) =
      ((fixedMembers "").take 4).map (·.text) ++ ([doc ++ "\nconstructor(optionsArg?: T);"] : List Text)
        ++ (((fixedMembers "").drop 5).map (·.text) ++ mappings.map (·.getter.text)) := by
  rw [List.map_append, List.map_map, ← List.append_assoc]
  rfl

theorem terminators_members {doc doc' : Text} {n : Nat} (hdoc : terminators doc = terminators doc' + n)
    (mappings : List Mapping) :
    terminators (joinLines ((fixedMembers doc ++ mappings.map (·.getter)).map (·.text))) =
      terminators (joinLines ((fixedMembers doc' ++ (mappings.map (·.withoutPlural)).map (·.getter)).map (·.text)))
        + (n + 2 * terminatorTotal (mappings.map (·.plural))) := by
  have hconstructor : terminatorTotal ([doc ++ "\nconstructor(optionsArg?: T);"] : List Text) =
      terminatorTotal ([doc' ++ "\nconstructor(optionsArg?: T);"] : List Text) + n := by
    rw [terminatorTotal_singleton, terminatorTotal_singleton, terminators_append (.inr (by decide)),
      terminators_append (.inr (by decide)), hdoc, Nat.add_right_comm]
  have hgetters := Mapping.terminatorTotal_getters mappings
  rw [map_text_members, map_text_members]
  -- the documentation is replaced first, then the getters behind what is there
  refine (terminators_joinLines_between _ _ hconstructor).trans ?_
  rw [← List.append_assoc, ← List.append_assoc, Nat.add_comm n, ← Nat.add_assoc]
  refine congrArg (· + n) ?_
  simpa only [List.append_nil] using terminators_joinLines_between
    (((fixedMembers "").take 4).map (·.text) ++ ([doc' ++ "\nconstructor(optionsArg?: T);"] : List Text)
      ++ ((fixedMembers "").drop 5).map (·.text)) [] hgetters

namespace Document

def withoutPlurals (d : Document) : Document := { d with mappings := d.mappings.map (·.withoutPlural) }

/-- The terminators in the plurals, as often as the client class shows them: that of the first mapping in two examples
of the class, and that of every record type that can be listed in the example of its getter. -/
def pluralTerminators (d : Document) : Nat :=
  4 * terminatorTotal ((d.usedMappings.take 1).map (·.plural)) + 2 * terminatorTotal (d.listable.map (·.plural))

variable (d : Document)

theorem usedMappings_withoutPlurals : d.withoutPlurals.usedMappings = d.usedMappings.map (·.withoutPlural) :=
  uniqueBy_map Mapping.entity Mapping.withoutPlural d.mappings

theorem listable_withoutPlurals : d.withoutPlurals.listable = d.listable.map (·.withoutPlural) := by
  rw [listable, usedMappings_withoutPlurals, List.filter_map]
  rfl

theorem terminators_clientText (s : Settings) :
    terminators (d.clientText s) = terminators (d.withoutPlurals.clientText s) + d.pluralTerminators := by
  have hbreak : terminators "\n" = 0 := rfl
  have hclose : terminators "\n\x7d" = 0 := rfl
  have htext (doc head members : Text) :
      terminators (doc ++ "\n" ++ head ++ "\n" ++ indent 2 members ++ "\n\x7d") =
        terminators doc + terminators head + terminators members := by
    rw [terminators_append (.inr (by decide)), terminators_around (by decide), terminators_around (by decide),
      terminators_indent, hbreak, hclose, Nat.add_zero, Nat.add_zero, Nat.add_zero]
  have hdoc := terminators_clientDoc s.clientName d.usedMappings
  have hmembers := terminators_members hdoc d.listable
  rw [clientText, clientText, clientMembers, clientMembers, htext, htext, usedMappings_withoutPlurals,
    listable_withoutPlurals, hmembers, hdoc, pluralTerminators]
  omega

variable {d} {d' : Document} {s s' : Settings}

/-- Where the versions and the plurals are replaced, the terminators of the head and of the client class change in
number by just those in the texts that stand there. So both stay as many exactly when the new texts hold as many. -/
theorem terminators_replaced (hd : d.withoutPlurals = d'.withoutPlurals) (hs : s.withoutVersions = s'.withoutVersions) :
    terminators s'.headText + s.versionTerminators = terminators s.headText + s'.versionTerminators ∧
      terminators (d'.clientText s') + d.pluralTerminators =
        terminators (d.clientText s) + d'.pluralTerminators ∧
      (terminators s'.headText = terminators s.headText ∧
          terminators (d'.clientText s') = terminators (d.clientText s) ↔
        s'.versionTerminators = s.versionTerminators ∧ d'.pluralTerminators = d.pluralTerminators) := by
  have hclient : s.clientName = s'.clientName := congrArg (·.clientName) hs
  have hframe : d.withoutPlurals.clientText s = d'.withoutPlurals.clientText s' := by
    rw [hd, clientText, clientText, clientMembers, clientMembers, hclient]
  have hhead := s.terminators_headText
  have hhead' := s'.terminators_headText
  have htext := d.terminators_clientText s
  have htext' := d'.terminators_clientText s'
  rw [hs] at hhead
  rw [hframe] at htext
  omega

def listing (plural : String) : Document where
  mappings := [{ entity := "Tag", plural, findMany := some "tags" }]

/-- A terminator in the version of the engine stands once in the head, and one in a plural six times in the class. -/
theorem terminators_replaced_listing :
    (listing "tags").withoutPlurals = (listing "a*/b").withoutPlurals ∧
      ({} : Settings).withoutVersions = ({ engineVersion := "*/" } : Settings).withoutVersions ∧
      terminators ({ engineVersion := "*/" } : Settings).headText = terminators ({} : Settings).headText + 1 ∧
      terminators ((listing "a*/b").clientText { engineVersion := "*/" }) =
        terminators ((listing "tags").clientText {}) + 6 := by
  have hd : (listing "tags").withoutPlurals = (listing "a*/b").withoutPlurals := rfl
  have hs : ({} : Settings).withoutVersions = ({ engineVersion := "*/" } : Settings).withoutVersions := rfl
  have hversions : ({} : Settings).versionTerminators = 0 ∧
      ({ engineVersion := "*/" } : Settings).versionTerminators = 1 := by
    decide
  have hplurals : (listing "tags").pluralTerminators = 0 ∧ (listing "a*/b").pluralTerminators = 6 := by
    decide
  obtain ⟨hhead, htext, -⟩ := terminators_replaced hd hs
  rw [hversions.1, hversions.2, Nat.add_zero] at hhead
  rw [hplurals.1, hplurals.2, Nat.add_zero] at htext
  exact ⟨hd, hs, hhead, htext⟩

def stampedTexts (d : Document) (s : Settings) : List Text :=
  s.clientVersion :: s.engineVersion :: d.mappings.map fun m => (m.plural : Text)

/-- A terminator in the version of the client closes the comment that the version stands in. -/
theorem comment_closed_early : ¬ ∀ (d d' : Document) (s s' : Settings), d.withoutPlurals = d'.withoutPlurals →
    s.withoutVersions = s'.withoutVersions → ("" : Text) ∉ d.stampedTexts s → ("" : Text) ∉ d'.stampedTexts s' →
    terminators s'.headText = terminators s.headText ∧
      terminators (d'.clientText s') = terminators (d.clientText s) := by
  intro h
  let starred : Settings := { clientVersion := "*/" }
  have hframe : ({} : Settings).withoutVersions = starred.withoutVersions := rfl
  have hversions : ({} : Settings).versionTerminators = 0 ∧ starred.versionTerminators = 1 := by
    decide
  have hsame := (h {} {} {} starred rfl hframe (by decide) (by decide)).1
  rw [starred.terminators_headText, Settings.terminators_headText {}, hframe, hversions.1, hversions.2] at hsame
  exact absurd (Nat.add_left_cancel hsame) Nat.one_ne_zero

end Document

end TypedClient
