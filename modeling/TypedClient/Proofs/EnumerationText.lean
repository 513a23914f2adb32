import TypedClient.Declaration.Enumeration
import TypedClient.Proofs.Layout
import TypedClient.Proofs.Unions
import TypedClient.Proofs.Whole

set_option autoImplicit false

namespace TypedClient.Enumeration

open Text (Unpaired joinHalves isIdentifier isIdentifierPart isIdentifierStart isWhole)

/-! ## A reader of objects -/

def readName? (line : Text) : Option (Text × Text) :=
  match line with
  | .char '"' :: rest => (Json.readString line (rest.length + 1) [] rest).toOption
  | _ =>
    let name := line.takeWhile isIdentifierPart
    if isIdentifier name then some (name, line.dropWhile isIdentifierPart) else none

def readValue? (written : Text) : Option Text :=
  match Json.parse written with
  | .ok (.scalar (.text value)) => some value
  | _ => none

def readMember? (line : Text) : Option (Text × Text) := do
  let (name, rest) ← readName? line
  let value ← readValue? (← (": " : Text).isPrefixOf? rest)
  return (name, value)

def readLines? : List Text → Option (List (Text × Text))
  | [] => none
  | [last] => do
    let m ← readMember? (← ("  " : Text).isPrefixOf? last)
    return [m]
  | line :: rest => do
    let m ← readMember? (← ("," : Text).isSuffixOf? (← ("  " : Text).isPrefixOf? line))
    let ms ← readLines? rest
    return m :: ms

/-- The members of an object in a text, from what stands in front of its first line and behind its last one. -/
def readBetween? (opening closing text : Text) : Option (List (Text × Text)) := do
  let body ← closing.isSuffixOf? (← opening.isPrefixOf? text)
  readLines? (Text.lines body)

/-! ## Reading one member -/

theorem readValue?_quote (v : Text) : readValue? (Json.quote v) = some (joinHalves v) := by
  rw [readValue?, Json.parse_quote]

theorem readName?_quote (v rest : Text) : readName? (Json.quote v ++ rest) = some (joinHalves v, rest) := by
  have hwritten : (Json.quote v : Text) ++ rest =
      .char '"' :: (v.flatMap (Json.writeLetter .ascii) ++ .char '"' :: rest) := by
    rw [← Json.quoteWith_ascii, Json.quoteWith]
    simp
  have hfuel : v.length < (v.flatMap (Json.writeLetter .ascii) ++ .char '"' :: rest).length + 1 := by
    have hle := Json.length_le_flatMap_writeLetter .ascii v
    rw [List.length_append]
    omega
  rw [hwritten, readName?, Json.readString_ascii _ rest hfuel]
  rfl

theorem exists_start_of_isIdentifier {v : Text} (h : isIdentifier v = true) :
    (∃ l ls, v = l :: ls ∧ isIdentifierStart l = true) ∧ ∀ l ∈ v, isIdentifierPart l = true := by
  unfold isIdentifier at h
  split at h
  · cases h
  · next l ls =>
    obtain ⟨hl, hls⟩ := Bool.and_eq_true_iff.mp h
    refine ⟨⟨l, ls, rfl, hl⟩, List.forall_mem_cons.mpr ⟨?_, List.all_eq_true.mp hls⟩⟩
    rw [isIdentifierPart, hl, Bool.true_or]

theorem readName?_bare {v : Text} (h : isIdentifier v = true) {l : Letter} (hl : isIdentifierPart l = false)
    (rest : Text) : readName? (v ++ l :: rest) = some (v, l :: rest) := by
  obtain ⟨⟨a, as, hv, ha⟩, hparts⟩ := exists_start_of_isIdentifier h
  have hquote : a ≠ .char '"' := by
    rintro rfl
    exact absurd ha (by decide +kernel)
  have hrest : ∀ k ∈ (l :: rest).head?, isIdentifierPart k = false := by simpa using hl
  have htake : (v ++ l :: rest).takeWhile isIdentifierPart = v := Text.takeWhile_append_eq hparts hrest
  have hdrop : (v ++ l :: rest).dropWhile isIdentifierPart = l :: rest := Text.dropWhile_append_eq hparts hrest
  unfold readName?
  split
  · next tail heq =>
    rw [hv] at heq
    cases heq
    exact absurd rfl hquote
  · rw [htake, hdrop, if_pos h]

theorem readName?_memberKey (v rest : Text) :
    readName? (memberKey v ++ .char ':' :: rest) = some (joinHalves v, .char ':' :: rest) := by
  unfold memberKey
  split
  · next h =>
    have hself : joinHalves v = v :=
      (Text.joinHalves_eq_self_iff v).mpr (Text.unpaired_of_isWhole (Text.isWhole_of_isIdentifier h))
    rw [readName?_bare h (by decide +kernel), hself]
  · exact readName?_quote v _

theorem readMember?_memberText (v : Text) :
    readMember? (memberText (v, v)) = some (joinHalves v, joinHalves v) := by
  have htext : memberText (v, v) = memberKey v ++ .char ':' :: .char ' ' :: Json.quote v := by
    rw [memberText, List.append_assoc]
    rfl
  have hcolon : (": " : Text).isPrefixOf? (.char ':' :: .char ' ' :: Json.quote v) = some ↑(Json.quote v) :=
    List.isPrefixOf?_eq_some_iff_append_eq.mpr rfl
  rw [readMember?, htext, readName?_memberKey]
  simp [hcolon, readValue?_quote]

/-! ## Reading line by line -/

theorem quote_mem_quote (v : Text) : .char '"' ∈ (Json.quote v : Text) := by
  rw [← Json.quoteWith_ascii, Json.quoteWith]
  exact List.mem_append_left _ List.mem_cons_self

theorem mem_memberText (v : Text) : .char '"' ∈ memberText (v, v) := List.mem_append_right _ (quote_mem_quote v)

theorem newline_notMem_memberText (v : Text) : .char '\n' ∉ memberText (v, v) := by
  have hquote (t : Text) : .char '\n' ∉ (Json.quote t : Text) := by
    rw [Text.char_mem_ofString]
    intro h
    exact absurd (Json.quote_range h).1 (by decide)
  have hkey : .char '\n' ∉ memberKey v := by
    unfold memberKey
    split
    · next h =>
      intro hmem
      exact absurd ((exists_start_of_isIdentifier h).2 _ hmem) (by decide +kernel)
    · exact hquote v
  rw [memberText, List.mem_append, List.mem_append, not_or, not_or]
  exact ⟨⟨hkey, by decide⟩, hquote v⟩

theorem indentLine_of_mem {t : Text} (h : .char '"' ∈ t) (size : Nat) :
    Text.indentLine size t = List.replicate size (.char ' ') ++ t := by
  have hblank : Text.allBlank t = false := by
    rw [Text.allBlank, List.all_eq_false]
    exact ⟨.char '"', h, by decide⟩
  rw [Text.indentLine, hblank]
  rfl

def bodyLines (vs : List Text) : List Text :=
  (Text.lines (Text.intercalate ",\n" (vs.map fun v => memberText (v, v)))).map (Text.indentLine 2)

theorem bodyLines_singleton (v : Text) : bodyLines [v] = [.char ' ' :: .char ' ' :: memberText (v, v)] := by
  rw [bodyLines, List.map_singleton, Text.intercalate_singleton, Text.lines_of_notMem (newline_notMem_memberText v),
    List.map_singleton, indentLine_of_mem (mem_memberText v)]
  rfl

theorem bodyLines_cons_cons (v w : Text) (vs : List Text) :
    bodyLines (v :: w :: vs) =
      (.char ' ' :: .char ' ' :: (memberText (v, v) ++ [.char ','])) :: bodyLines (w :: vs) := by
  have hbreak : .char '\n' ∉ memberText (v, v) ++ [.char ','] := by
    simpa using newline_notMem_memberText v
  have hmem : .char '"' ∈ memberText (v, v) ++ [.char ','] := List.mem_append_left _ (mem_memberText v)
  have htext : Text.intercalate ",\n" ((v :: w :: vs).map fun v => memberText (v, v)) =
      (memberText (v, v) ++ [.char ',']) ++
        .char '\n' :: Text.intercalate ",\n" ((w :: vs).map fun v => memberText (v, v)) := by
    rw [List.map_cons, List.map_cons, Text.intercalate_cons_cons, List.append_assoc, List.append_assoc]
    rfl
  rw [bodyLines, htext, Text.lines_append_cons hbreak, List.map_cons, indentLine_of_mem hmem]
  rfl

theorem readLines?_bodyLines {vs : List Text} (h : vs ≠ []) :
    readLines? (bodyLines vs) = some (vs.map fun v => (joinHalves v, joinHalves v)) := by
  have hindent (t : Text) : ("  " : Text).isPrefixOf? (.char ' ' :: .char ' ' :: t) = some t :=
    List.isPrefixOf?_eq_some_iff_append_eq.mpr rfl
  have hcomma (t : Text) : ("," : Text).isSuffixOf? (t ++ [.char ',']) = some t :=
    List.isSuffixOf?_eq_some_iff_append_eq.mpr rfl
  induction vs with
  | nil => exact absurd rfl h
  | cons v vs ih =>
    cases vs with
    | nil =>
      rw [bodyLines_singleton, readLines?, hindent]
      simp [readMember?_memberText]
    | cons w vs =>
      -- a further line follows, so this one ends in a comma
      have hmore : bodyLines (w :: vs) ≠ [] := by
        intro hnil
        rw [hnil] at ih
        cases ih (by simp)
      rw [bodyLines_cons_cons, readLines?, hindent, Option.bind_eq_bind, Option.bind_some, hcomma,
        Option.bind_eq_bind, Option.bind_some, readMember?_memberText, ih (by simp)]
      · rfl
      · exact fun hnil => hmore hnil

/-! ## Reading the whole object -/

theorem lines_indent_members (e : Enumeration) :
    Text.lines (Text.indent 2 (Text.intercalate ",\n" (e.members.map memberText))) = bodyLines e.values := by
  rw [Text.lines_indent, bodyLines, members, List.map_map]
  rfl

theorem readBetween?_objectText (e : Enumeration) (h : e.values ≠ []) (before after : Text) :
    readBetween? (before ++ "\x7b\n") ("\n\x7d" ++ after) (before ++ e.objectText ++ after) =
      some (e.values.map fun v => (joinHalves v, joinHalves v)) := by
  let body := Text.indent 2 (Text.intercalate ",\n" (e.members.map memberText))
  have hopening : (before ++ "\x7b\n").isPrefixOf? (before ++ e.objectText ++ after) =
      some (body ++ ("\n\x7d" ++ after)) := by
    rw [List.isPrefixOf?_eq_some_iff_append_eq, objectText]
    simp only [body, List.append_assoc]
  have hclosing : (("\n\x7d" : Text) ++ after).isSuffixOf? (body ++ ("\n\x7d" ++ after)) = some body :=
    List.isSuffixOf?_eq_some_iff_append_eq.mpr rfl
  rw [readBetween?, hopening, Option.bind_eq_bind, Option.bind_some, hclosing, Option.bind_some,
    lines_indent_members, readLines?_bodyLines h]

theorem reads_members_iff (values : List Text) :
    some (values.map fun v => (joinHalves v, joinHalves v)) = some (values.map fun v => (v, v)) ↔
      ∀ v ∈ values, Unpaired v := by
  rw [Option.some.injEq, List.map_inj_left]
  refine forall₂_congr fun v _ => ?_
  rw [← Text.joinHalves_eq_self_iff, Prod.mk.injEq, and_self]

/-! ## The union of the values -/

theorem union_eq_ofParts (e : Enumeration) (h : e.values.Nodup) : e.union = .ofParts (e.values.map .literal) := by
  classical
  have hliterals : e.members.map (fun m => TypeExpr.literal m.2) = e.values.map .literal := by
    rw [members, List.map_map]
    rfl
  have hparts : (e.values.map TypeExpr.literal).flatMap TypeExpr.parts = e.values.map .literal := by
    rw [List.flatMap_map]
    exact List.map_eq_flatMap.symm
  have hnodup : ((e.values.map TypeExpr.literal).map (TypeExpr.reduce id)).Nodup := by
    rw [List.map_map]
    refine h.map fun v w heq => ?_
    simpa [TypeExpr.reduce] using heq
  rw [union, hliterals, TypeExpr.unionOf_eq, hparts, TypeExpr.eraseDupsBy_same, uniqueBy_eq_self _ hnodup]

/-- The definition of an enumeration is read back as its members, each value under its own name, wherever the values
have an encoding, and beyond that exactly where no two halves of a pair meet in a value. The declaration holds the
same object. Values that are all different are the members of the union, in their order; a single one is the union. -/
theorem members_readable (e : Enumeration) (hvalues : e.values ≠ []) :
    ((∀ v ∈ e.values, isWhole v = true) →
        readBetween? ("exports." ++ e.name ++ " = makeEnum(\x7b\n") "\n\x7d);" e.jsText =
          some (e.values.map fun v => (v, v))) ∧
      (readBetween? ("exports." ++ e.name ++ " = makeEnum(\x7b\n") "\n\x7d);" e.jsText =
        some (e.values.map fun v => (v, v)) ↔ ∀ v ∈ e.values, Unpaired v) ∧
      (∃ object : Text, e.jsText = "exports." ++ e.name ++ " = makeEnum(" ++ object ++ ");" ∧
        e.tsText = "export declare const " ++ e.name ++ ": " ++ object ++ ";\n\nexport declare type " ++ e.name
          ++ " = (typeof " ++ e.name ++ ")[keyof typeof " ++ e.name ++ "]\n") ∧
      (e.values.Nodup → (∀ v, e.values = [v] → e.union = .literal v) ∧
        (2 ≤ e.values.length → e.union = .union (e.values.map .literal))) := by
  have hopening : ("exports." ++ e.name ++ " = makeEnum(\x7b\n" : Text) =
      ("exports." ++ e.name ++ " = makeEnum(" : Text) ++ "\x7b\n" := by
    have hbrace : (" = makeEnum(\x7b\n" : Text) = " = makeEnum(" ++ "\x7b\n" := rfl
    rw [hbrace, ← List.append_assoc]
  have hiff : readBetween? ("exports." ++ e.name ++ " = makeEnum(\x7b\n") "\n\x7d);" e.jsText =
      some (e.values.map fun v => (v, v)) ↔ ∀ v ∈ e.values, Unpaired v := by
    rw [hopening, ← reads_members_iff]
    exact Eq.congr_left (readBetween?_objectText e hvalues _ ");")
  have hunpaired : (∀ v ∈ e.values, isWhole v = true) → ∀ v ∈ e.values, Unpaired v :=
    fun hwhole v hv => Text.unpaired_of_isWhole (hwhole v hv)
  refine ⟨fun hwhole => hiff.mpr (hunpaired hwhole), hiff, ⟨e.objectText, rfl, rfl⟩, ?_⟩
  intro hnodup
  rw [union_eq_ofParts e hnodup]
  constructor
  · intro v hv
    rw [hv]
    rfl
  · intro hlength
    refine TypeExpr.ofParts_of_ne fun t ht => ?_
    have hone := congrArg List.length ht
    rw [List.length_map, List.length_singleton] at hone
    omega

/-- Punctuation, a line feed, characters beyond the first 65536, a name that can be bare and one that is empty. -/
def marks : Enumeration where
  name := "Mark"
  values := ["a,b: \"c\"\\", "two\nlines", "😀", [.char (.ofNat 0x10F000), .char (.ofNat 0x10F400)], "größe", ""]

theorem marks_readable :
    marks.values ≠ [] ∧ marks.values.Nodup ∧
      readBetween? "exports.Mark = makeEnum(\x7b\n" "\n\x7d);" marks.jsText =
        some (marks.values.map fun v => (v, v)) ∧
      marks.union = .union (marks.values.map .literal) := by
  have hvalues : marks.values ≠ [] := by decide
  have hnodup : marks.values.Nodup := by decide
  obtain ⟨hread, -, -, hunion⟩ := members_readable marks hvalues
  exact ⟨hvalues, hnodup, hread (by decide +kernel), (hunion hnodup).2 (by decide)⟩

end TypedClient.Enumeration
