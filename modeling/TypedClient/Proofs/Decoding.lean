import TypedClient.Json.Printer
import TypedClient.Proofs.Escapes

set_option autoImplicit false

/-!
# Compact values read back

A value made of texts, truth values and null is written without blanks and read back as it is. Numbers are
left out: schema documents hold none.
-/

namespace TypedClient.Json

open Text (joinHalves Unpaired)

/-- A value without numbers, at most so deep, in which no object has a name twice. -/
inductive Textual : Nat → Json → Prop where
  | null {n : Nat} : Textual n .null
  | bool {n : Nat} (b : Bool) : Textual n (.bool b)
  | str {n : Nat} (t : Text) : Textual n (.str t)
  | arr {n : Nat} {items : List Json} (h : ∀ j ∈ items, Textual n j) : Textual (n + 1) (.arr items)
  | obj {n : Nat} {members : List (String × Json)} (hnames : (members.map (·.1)).Nodup)
      (h : ∀ m ∈ members, Textual n m.2) : Textual (n + 1) (.obj members)

/-! ## What comes first -/

/-- The text starts with a character that is no white space, no closing bracket and no byte order mark. -/
def Starts (t : Text) : Prop :=
  ∃ l rest, t = l :: rest ∧ isSpace l = false ∧ l ≠ .char ']' ∧ l ≠ .char '\uFEFF'

theorem starts_cons {l : Letter} (h : isSpace l = false ∧ l ≠ .char ']' ∧ l ≠ .char '\uFEFF') (rest : Text) :
    Starts (l :: rest) :=
  ⟨l, rest, rfl, h⟩

theorem Starts.append {t : Text} (h : Starts t) (tail : Text) : Starts (t ++ tail) := by
  obtain ⟨c, rest, rfl, hc⟩ := h
  exact starts_cons hc (rest ++ tail)

theorem skipSpace_cons {l : Letter} (h : isSpace l = false) (rest : Text) :
    skipSpace (l :: rest) = l :: rest := by
  simp [skipSpace, h]

theorem Starts.skipSpace_eq {t : Text} (h : Starts t) : skipSpace t = t := by
  obtain ⟨c, rest, rfl, hspace, -⟩ := h
  exact skipSpace_cons hspace rest

theorem starts_quoteWith (set : Charset) (t : Text) : Starts (quoteWith set t) := starts_cons (by decide) _

theorem starts_compact {n : Nat} {j : Json} (h : Textual n j) : Starts (compact .full j) := by
  cases h with
  | null => exact starts_cons (l := .char 'n') (by decide) _
  | bool b =>
    cases b with
    | false => exact starts_cons (l := .char 'f') (by decide) _
    | true => exact starts_cons (l := .char 't') (by decide) _
  | str t =>
    rw [compact]
    exact starts_quoteWith .full t
  | arr h =>
    rw [compact]
    exact starts_cons (l := .char '[') (by decide) _
  | obj hnames h =>
    rw [compact]
    exact starts_cons (l := .char '\x7b') (by decide) _

/-! ## Reading back -/

/-- At a depth, the written form of the value is read as the value, whatever comes after it. -/
def ReadsBack (depth : Nat) (j : Json) : Prop :=
  ∀ (fuel : Nat) (rest : Text), (compact .full j).length ≤ fuel →
    readValue depth fuel (compact .full j ++ rest) = .ok (Data.ofJson j, rest)

theorem readText_quoteWith (t rest : Text) {fuel : Nat} (h : (quoteWith .full t).length ≤ fuel) :
    ∃ tail, quoteWith .full t ++ rest = .char '"' :: tail
      ∧ readText fuel (.char '"' :: tail) tail = .ok (.text t, rest) := by
  have hfuel : t.length < fuel := by
    have hle := length_le_flatMap_writeLetter .full t
    rw [quoteWith, List.length_append, List.length_cons] at h
    omega
  refine ⟨t.flatMap (writeLetter .full) ++ .char '"' :: rest, by simp [quoteWith], ?_⟩
  rw [readText, readString_full _ rest hfuel]
  rfl

theorem readsBack_null (depth : Nat) : ReadsBack depth .null := by
  intro fuel rest hfuel
  obtain ⟨fuel, rfl⟩ := Nat.exists_eq_add_one_of_ne_zero (Nat.ne_zero_of_lt hfuel)
  rfl

theorem readsBack_bool (depth : Nat) (b : Bool) : ReadsBack depth (.bool b) := by
  intro fuel rest hfuel
  cases b with
  | false =>
    obtain ⟨fuel, rfl⟩ := Nat.exists_eq_add_one_of_ne_zero (Nat.ne_zero_of_lt hfuel)
    rfl
  | true =>
    obtain ⟨fuel, rfl⟩ := Nat.exists_eq_add_one_of_ne_zero (Nat.ne_zero_of_lt hfuel)
    rfl

theorem readsBack_str (depth : Nat) (t : Text) : ReadsBack depth (.str t) := by
  intro fuel rest hfuel
  rw [compact] at hfuel ⊢
  have hpos : 0 < (quoteWith .full t).length := by simp [quoteWith]
  obtain ⟨fuel, rfl⟩ := Nat.exists_eq_add_one_of_ne_zero (Nat.ne_zero_of_lt (hpos.trans_le hfuel))
  obtain ⟨tail, heq, hread⟩ := readText_quoteWith t rest hfuel
  rw [heq, readValue, hread, Data.ofJson]

/-! ## Arrays -/

section Arrays

variable {depth fuel : Nat} {s more rest : Text} {value : Data} {values : List Data}

theorem readItems_last (hvalue : readValue depth fuel s = .ok (value, .char ']' :: rest)) :
    readItems depth (fuel + 1) s = .ok ([value], rest) := by
  have hskip : skipSpace (.char ']' :: rest) = .char ']' :: rest := skipSpace_cons (by decide) rest
  simp [readItems, hvalue, hskip]

theorem readItems_next (hvalue : readValue depth fuel s = .ok (value, .char ',' :: more)) (hmore : Starts more)
    (hvalues : readItems depth fuel more = .ok (values, rest)) :
    readItems depth (fuel + 1) s = .ok (value :: values, rest) := by
  have hskip : skipSpace (.char ',' :: more) = .char ',' :: more := skipSpace_cons (by decide) more
  simp [readItems, hvalue, hskip, hmore.skipSpace_eq, hvalues]

theorem readValue_arr (hdepth : depth < maxDepth) (hs : Starts s)
    (hvalues : readItems (depth + 1) fuel s = .ok (values, rest)) :
    readValue depth (fuel + 1) (.char '[' :: s) = .ok (.list values, rest) := by
  obtain ⟨c, cs, rfl, hspace, hclose, -⟩ := hs
  rw [readValue, if_neg (by omega), skipSpace_cons hspace]
  split
  · next after heq =>
    cases heq
    exact absurd rfl hclose
  · rw [hvalues]

end Arrays

def joinedItems (items : List Json) : Text := Text.intercalate "," (compactItems .full items)

theorem compact_arr (items : List Json) :
    compact .full (.arr items) = .char '[' :: (joinedItems items ++ [.char ']']) := by
  rw [compact]
  rfl

theorem joinedItems_cons_cons (j k : Json) (items : List Json) :
    joinedItems (j :: k :: items) = compact .full j ++ .char ',' :: joinedItems (k :: items) := by
  rw [joinedItems, compactItems, compactItems, Text.intercalate, List.intercalate_cons_cons, List.append_assoc]
  rfl

theorem starts_joinedItems {items : List Json} (hne : items ≠ [])
    (hstarts : ∀ j ∈ items, Starts (compact .full j)) : Starts (joinedItems items) := by
  cases items with
  | nil => exact absurd rfl hne
  | cons j items =>
    have hj := hstarts j (by simp)
    cases items with
    | nil => simpa [joinedItems, compactItems] using hj
    | cons k items =>
      rw [joinedItems_cons_cons]
      exact hj.append _

theorem readItems_joinedItems {depth : Nat} {items : List Json} (hne : items ≠ [])
    (hstarts : ∀ j ∈ items, Starts (compact .full j)) (hread : ∀ j ∈ items, ReadsBack depth j)
    (fuel : Nat) (rest : Text) (hfuel : (joinedItems items).length < fuel) :
    readItems depth fuel (joinedItems items ++ .char ']' :: rest) = .ok (Data.ofItems items, rest) := by
  -- the comma pays for the unit that going on to the next item takes
  induction items generalizing fuel with
  | nil => exact absurd rfl hne
  | cons j items ih =>
    obtain ⟨fuel, rfl⟩ := Nat.exists_eq_add_one_of_ne_zero (Nat.ne_zero_of_lt hfuel)
    have hj := hread j (by simp)
    cases items with
    | nil =>
      simp only [joinedItems, compactItems, Text.intercalate, List.intercalate_singleton] at hfuel ⊢
      exact readItems_last (hj fuel _ (by omega))
    | cons k items =>
      have hstarts' : ∀ i ∈ k :: items, Starts (compact .full i) := fun i hi =>
        hstarts i (List.mem_cons_of_mem j hi)
      have hread' : ∀ i ∈ k :: items, ReadsBack depth i := fun i hi => hread i (List.mem_cons_of_mem j hi)
      rw [joinedItems_cons_cons, List.length_append, List.length_cons] at hfuel
      have hitems := ih (by simp) hstarts' hread' fuel (by omega)
      rw [joinedItems_cons_cons, List.append_assoc, List.cons_append]
      exact readItems_next (hj fuel _ (by omega)) ((starts_joinedItems (by simp) hstarts').append _) hitems

theorem readsBack_arr {depth : Nat} (hdepth : depth < maxDepth) {items : List Json}
    (hstarts : ∀ j ∈ items, Starts (compact .full j)) (hread : ∀ j ∈ items, ReadsBack (depth + 1) j) :
    ReadsBack depth (.arr items) := by
  intro fuel rest hfuel
  rw [compact_arr, List.length_cons, List.length_append, List.length_singleton] at hfuel
  obtain ⟨fuel, rfl⟩ := Nat.exists_eq_add_one_of_ne_zero (Nat.ne_zero_of_lt hfuel)
  rw [compact_arr, List.cons_append, List.append_assoc, List.singleton_append, Data.ofJson]
  by_cases hne : items = []
  · subst hne
    have hskip : skipSpace (.char ']' :: rest) = .char ']' :: rest := skipSpace_cons (by decide) rest
    simp [joinedItems, compactItems, readValue, hskip, Nat.not_le.mpr hdepth, Data.ofItems]
  · have hitems := readItems_joinedItems hne hstarts hread fuel rest (by omega)
    exact readValue_arr hdepth ((starts_joinedItems hne hstarts).append _) hitems

/-! ## Objects -/

section Objects

variable {depth fuel : Nat} {s tail more rest : Text} {name : Scalar} {value : Data}
  {done : List (Scalar × Data)}

theorem readMembers_last (hname : readText (fuel + 1) (.char '"' :: s) s = .ok (name, .char ':' :: tail))
    (htail : Starts tail) (hvalue : readValue depth fuel tail = .ok (value, .char '\x7d' :: rest)) :
    readMembers depth (fuel + 1) done (.char '"' :: s) = .ok (.map (Data.put done name value), rest) := by
  have hcolon : skipSpace (.char ':' :: tail) = .char ':' :: tail := skipSpace_cons (by decide) tail
  have hskip : skipSpace (.char '\x7d' :: rest) = .char '\x7d' :: rest := skipSpace_cons (by decide) rest
  simp [readMembers, hname, hcolon, htail.skipSpace_eq, hvalue, hskip]

theorem readMembers_next (hname : readText (fuel + 1) (.char '"' :: s) s = .ok (name, .char ':' :: tail))
    (htail : Starts tail) (hvalue : readValue depth fuel tail = .ok (value, .char ',' :: more))
    (hmore : Starts more) :
    readMembers depth (fuel + 1) done (.char '"' :: s) = readMembers depth fuel (Data.put done name value) more := by
  have hcolon : skipSpace (.char ':' :: tail) = .char ':' :: tail := skipSpace_cons (by decide) tail
  have hskip : skipSpace (.char ',' :: more) = .char ',' :: more := skipSpace_cons (by decide) more
  simp [readMembers, hname, hcolon, htail.skipSpace_eq, hvalue, hskip, hmore.skipSpace_eq]

theorem readValue_obj (hdepth : depth < maxDepth) (s : Text) :
    readValue depth (fuel + 1) (.char '\x7b' :: .char '"' :: s) = readMembers (depth + 1) fuel [] (.char '"' :: s) := by
  rw [readValue, if_neg (by omega), skipSpace_cons (by decide)]
  simp

end Objects

def joinedMembers (members : List (String × Json)) : Text :=
  Text.intercalate "," (compactMembers .full members)

theorem compact_obj (members : List (String × Json)) :
    compact .full (.obj members) = .char '\x7b' :: (joinedMembers members ++ [.char '\x7d']) := by
  rw [compact]
  rfl

def writtenMember (m : String × Json) : Text := quoteWith .full m.1 ++ .char ':' :: compact .full m.2

theorem compactMembers_cons (m : String × Json) (members : List (String × Json)) :
    compactMembers .full (m :: members) = writtenMember m :: compactMembers .full members := by
  rw [compactMembers, List.append_assoc]
  rfl

theorem joinedMembers_singleton (m : String × Json) : joinedMembers [m] = writtenMember m := by
  rw [joinedMembers, compactMembers_cons, compactMembers, Text.intercalate, List.intercalate_singleton]

theorem joinedMembers_cons_cons (m k : String × Json) (members : List (String × Json)) :
    joinedMembers (m :: k :: members) = writtenMember m ++ .char ',' :: joinedMembers (k :: members) := by
  rw [joinedMembers, compactMembers_cons, compactMembers_cons, Text.intercalate, List.intercalate_cons_cons,
    List.append_assoc, ← compactMembers_cons]
  rfl

theorem writtenMember_eq (m : String × Json) : ∃ s, writtenMember m = .char '"' :: s :=
  ⟨_, by rw [writtenMember, quoteWith, List.cons_append, List.cons_append]⟩

theorem joinedMembers_eq {members : List (String × Json)} (hne : members ≠ []) :
    ∃ s, joinedMembers members = .char '"' :: s := by
  cases members with
  | nil => exact absurd rfl hne
  | cons m members =>
    obtain ⟨s, hs⟩ := writtenMember_eq m
    cases members with
    | nil => exact ⟨s, by rw [joinedMembers_singleton, hs]⟩
    | cons k members => exact ⟨_, by rw [joinedMembers_cons_cons, hs, List.cons_append]⟩

theorem put_ofMembers {before : List (String × Json)} {name : String} (h : name ∉ before.map (·.1)) (j : Json) :
    Data.put (Data.ofMembers before) (.text name) (Data.ofJson j) = Data.ofMembers (before ++ [(name, j)]) := by
  have hnone : (Data.ofMembers before).any (·.1.sameKey (.text name)) = false := by
    rw [Data.ofMembers_eq, List.any_map, List.any_eq_false]
    intro m hm heq
    have hsame : m.1 = name := by simpa [Scalar.sameKey] using heq
    exact h (List.mem_map.mpr ⟨m, hm, hsame⟩)
  rw [Data.put, hnone]
  simp [Data.ofMembers_eq]

theorem readMembers_joinedMembers {depth : Nat} {members : List (String × Json)} (hne : members ≠ [])
    (hstarts : ∀ m ∈ members, Starts (compact .full m.2))
    (hread : ∀ m ∈ members, ReadsBack depth m.2) (fuel : Nat) (before : List (String × Json))
    (hnames : ((before ++ members).map (·.1)).Nodup) (rest : Text)
    (hfuel : (joinedMembers members).length < fuel) :
    readMembers depth fuel (Data.ofMembers before) (joinedMembers members ++ .char '\x7d' :: rest)
      = .ok (.map (Data.ofMembers (before ++ members)), rest) := by
  -- a member that was read moves from the members to those before them, so the names stay distinct
  induction members generalizing fuel before with
  | nil => exact absurd rfl hne
  | cons m members ih =>
    obtain ⟨fuel, rfl⟩ := Nat.exists_eq_add_one_of_ne_zero (Nat.ne_zero_of_lt hfuel)
    have hm := hread m (by simp)
    have hm' := hstarts m (by simp)
    have hfresh : m.1 ∉ before.map (·.1) := by
      intro hmem
      rw [List.map_append, List.nodup_append] at hnames
      exact hnames.2.2 m.1 hmem m.1 (by simp) rfl
    cases members with
    | nil =>
      rw [joinedMembers_singleton] at hfuel ⊢
      simp only [writtenMember, List.length_append, List.length_cons] at hfuel
      have hlength : (quoteWith .full m.1).length ≤ fuel + 1 := by omega
      obtain ⟨s, heq, hname⟩ :=
        readText_quoteWith m.1 (.char ':' :: (compact .full m.2 ++ .char '\x7d' :: rest)) hlength
      rw [writtenMember, List.append_assoc, List.cons_append, heq,
        readMembers_last hname (hm'.append _) (hm fuel _ (by omega)), put_ofMembers hfresh]
    | cons k members =>
      rw [joinedMembers_cons_cons] at hfuel ⊢
      simp only [writtenMember, List.length_append, List.length_cons] at hfuel
      have hstarts' : Starts (joinedMembers (k :: members) ++ .char '\x7d' :: rest) := by
        obtain ⟨s, hs⟩ := joinedMembers_eq (List.cons_ne_nil k members)
        rw [hs]
        exact starts_cons (by decide) _
      have hlength : (quoteWith .full m.1).length ≤ fuel + 1 := by omega
      let behind := compact .full m.2 ++ .char ',' :: (joinedMembers (k :: members) ++ .char '\x7d' :: rest)
      obtain ⟨s, heq, hname⟩ := readText_quoteWith m.1 (.char ':' :: behind) hlength
      have hmembers := ih (by simp) (fun i hi => hstarts i (List.mem_cons_of_mem m hi))
        (fun i hi => hread i (List.mem_cons_of_mem m hi)) fuel (before ++ [m]) (by simpa using hnames) (by omega)
      rw [writtenMember, List.append_assoc, List.append_assoc, List.cons_append, List.cons_append, heq,
        readMembers_next hname (hm'.append _) (hm fuel _ (by omega)) hstarts', put_ofMembers hfresh, hmembers]
      simp

theorem readsBack_obj {depth : Nat} (hdepth : depth < maxDepth) {members : List (String × Json)}
    (hnames : (members.map (·.1)).Nodup) (hstarts : ∀ m ∈ members, Starts (compact .full m.2))
    (hread : ∀ m ∈ members, ReadsBack (depth + 1) m.2) : ReadsBack depth (.obj members) := by
  intro fuel rest hfuel
  rw [compact_obj, List.length_cons, List.length_append,
    List.length_singleton] at hfuel
  obtain ⟨fuel, rfl⟩ := Nat.exists_eq_add_one_of_ne_zero (Nat.ne_zero_of_lt hfuel)
  rw [compact_obj, List.cons_append, List.append_assoc, List.singleton_append, Data.ofJson]
  by_cases hne : members = []
  · subst hne
    have hskip : skipSpace (.char '\x7d' :: rest) = .char '\x7d' :: rest := skipSpace_cons (by decide) rest
    simp [joinedMembers, compactMembers, readValue, hskip, Nat.not_le.mpr hdepth, Data.ofMembers]
  · have hmembers := readMembers_joinedMembers hne hstarts hread fuel [] hnames rest (by omega)
    obtain ⟨s, hs⟩ := joinedMembers_eq hne
    rw [hs, List.cons_append] at hmembers ⊢
    rw [readValue_obj hdepth]
    exact hmembers

/-! ## Whole texts -/

theorem readsBack_of_textual {n depth : Nat} {j : Json} (h : Textual n j) (hdepth : depth + n ≤ maxDepth) :
    ReadsBack depth j := by
  induction h generalizing depth with
  | null => exact readsBack_null depth
  | bool b => exact readsBack_bool depth b
  | str t => exact readsBack_str depth t
  | arr h ih =>
    exact readsBack_arr (by omega) (fun j hj => starts_compact (h j hj)) fun j hj => ih j hj (by omega)
  | obj hnames h ih =>
    exact readsBack_obj (by omega) hnames (fun m hm => starts_compact (h m hm)) fun m hm => ih m hm (by omega)

theorem parse_of_readValue {t : Text} {value : Data} (hstarts : Starts t)
    (h : readValue 0 (2 * t.length + 2) t = .ok (value, [])) : parse t = .ok value := by
  have hskip := hstarts.skipSpace_eq
  obtain ⟨c, rest, heq, -, -, hmark⟩ := hstarts
  unfold parse
  split
  · cases heq
    exact absurd rfl hmark
  · rw [hskip, h]
    rfl

theorem parse_compact {n : Nat} {j : Json} (h : Textual n j) (hn : n ≤ maxDepth) :
    parse (compact .full j) = .ok (Data.ofJson j) := by
  have hread : ReadsBack 0 j := readsBack_of_textual h (by omega)
  have hvalue := hread (2 * (compact .full j).length + 2) [] (by omega)
  rw [List.append_nil] at hvalue
  exact parse_of_readValue (starts_compact h) hvalue

theorem parse_quote (t : Text) : parse (quote t) = .ok (.text (joinHalves t)) := by
  have hfuel : t.length < 2 * (quoteWith .ascii t).length + 1 + 1 := by
    have hle := length_le_flatMap_writeLetter .ascii t
    rw [quoteWith, List.length_append, List.length_cons]
    omega
  rw [← quoteWith_ascii]
  apply parse_of_readValue (starts_quoteWith .ascii t)
  generalize 2 * (quoteWith .ascii t).length = n at hfuel
  rw [quoteWith, List.cons_append, readValue, readText, readString_ascii _ [] hfuel]
  rfl

theorem parse_quote_eq_iff (t : Text) : parse (quote t) = .ok (.text t) ↔ Unpaired t := by
  rw [parse_quote, ← Text.joinHalves_eq_self_iff, Except.ok.injEq, Data.scalar.injEq, Scalar.text.injEq]

end TypedClient.Json
