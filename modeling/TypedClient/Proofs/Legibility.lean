import TypedClient.Proofs.Constituents
import TypedClient.Proofs.Escapes
import TypedClient.Proofs.Layout
import TypedClient.Proofs.Unions
import TypedClient.Text.Identifier
import TypedClient.TypeExpr.Printer

set_option autoImplicit false

/-!
# Types are read back from their texts

A type that is no union opens with a name or a sign of its own and tells where it ends: in front of a blank, a comma,
a closing bracket or the end of a line. So its text, with whatever follows it, determines the type and what follows.
A union is read back part by part, an application argument by argument and an object member by member. What a
literal holds does not matter, as it is escaped; only the two halves of a pair are written as the character they
stand for.
-/

namespace TypedClient.TypeExpr

open Text (isAsciiName OpensIn opensIn_cons_iff append_inj_of_forall intercalate_inj joinHalves Unpaired)

/-! ## Legible types -/

/-- Names are made of ASCII letters, digits, low lines and dollar signs; no reference is called `null` or `never`, and
no application `Array`. Applications have arguments, unions have several members that are no unions, and members have
no comments. Literals hold any text. -/
inductive Legible : TypeExpr → Prop
  | ref {name : String} (hname : isAsciiName name = true) (hnull : name ≠ "null") (hnever : name ≠ "never") :
      Legible (.ref name)
  | literal (value : Text) : Legible (.literal value)
  | null : Legible .null
  | never : Legible .never
  | list {item : TypeExpr} (hitem : Legible item) : Legible (.list item)
  | generic {name : String} {args : List TypeExpr} (hname : isAsciiName name = true) (harray : name ≠ "Array")
      (hsome : args ≠ []) (hargs : ∀ t ∈ args, Legible t) : Legible (.generic name args)
  | union {members : List TypeExpr} (hseveral : 2 ≤ members.length) (hflat : ∀ t ∈ members, t.isUnion = false)
      (hmembers : ∀ t ∈ members, Legible t) : Legible (.union members)
  | object {members : List Member} {name : Option String}
      (hnames : ∀ m ∈ members, isAsciiName m.name = true ∧ m.comment = none)
      (hmembers : ∀ m ∈ members, Legible m.type) : Legible (.object members name)

/-! ## Written forms -/

theorem renderAll_eq (ts : List TypeExpr) : renderAll ts = ts.map render := by
  induction ts with
  | nil => rfl
  | cons t ts ih => rw [renderAll, ih, List.map_cons]

theorem renderMembers_eq (ms : List Member) : renderMembers ms = ms.map Member.render := by
  induction ms with
  | nil => rfl
  | cons m ms ih =>
    cases m
    rw [renderMembers, ih, List.map_cons, Member.render]

theorem render_literal (value : Text) :
    render (.literal value) = .char '"' :: (value.flatMap (Json.writeLetter .ascii) ++ [.char '"']) := by
  rw [render, ← Json.quoteWith_ascii, Json.quoteWith]
  rfl

theorem render_names (name : String) : render (.list (.ref name)) = (name : Text) ++ [.char '[', .char ']'] := by
  rw [render]
  rfl

theorem render_list {item : TypeExpr} (h : ∀ name, item ≠ .ref name) :
    render (.list item) = ("Array" : Text) ++ .char '<' :: (item.render ++ [.char '>']) := by
  rw [render]
  · rfl
  · exact h

theorem render_generic (name : String) {args : List TypeExpr} (h : args ≠ []) :
    render (.generic name args) =
      (name : Text) ++ .char '<' :: (Text.intercalate ", " (args.map render) ++ [.char '>']) := by
  obtain ⟨a, rest, rfl⟩ := List.exists_cons_of_ne_nil h
  rw [render, renderAll_eq, List.append_assoc, List.append_assoc]
  rfl

theorem render_union (members : List TypeExpr) :
    render (.union members) = Text.intercalate " | " (members.map render) := by
  rw [render, renderAll_eq]

def body (members : List Member) : Text := Text.joinLines (members.map Member.render)

theorem render_object {members : List Member} (h : members ≠ []) (name : Option String) :
    render (.object members name) =
      .char '\x7b' :: .char '\n' :: (Text.indent 2 (body members) ++ [.char '\n', .char '\x7d']) := by
  obtain ⟨m, rest, rfl⟩ := List.exists_cons_of_ne_nil h
  rw [render, renderMembers_eq, ← body, List.append_assoc]
  rfl

theorem render_empty (name : Option String) : render (.object [] name) = [.char '\x7b', .char '\x7d'] := by
  rw [render]
  rfl

theorem render_member {m : Member} (h : m.comment = none) :
    m.render =
      (m.name : Text) ++ ((if m.isOptional then [.char '?'] else []) ++ .char ':' :: .char ' ' :: m.type.render) := by
  rw [Member.render, h, commentAbove, List.nil_append, List.append_assoc, List.append_assoc]
  cases m.isOptional <;> rfl

/-! ## Openings -/

def inName (l : Letter) : Bool := l.char?.any fun c => c.isAlphanum || c == '_' || c == '$'

theorem inName_of_isAsciiName {name : String} (h : isAsciiName name = true) : ∀ l ∈ (name : Text), inName l = true := by
  have hletters {cs : List Char} (hcs : ∀ c ∈ cs, (c.isAlphanum || c == '_' || c == '$') = true) :
      ∀ l ∈ cs.map Letter.char, inName l = true := List.forall_mem_map.mpr hcs
  unfold isAsciiName at h
  split at h
  · cases h
  · next c rest hname =>
    rw [Bool.and_eq_true, List.all_eq_true] at h
    rw [Text.ofString, hname]
    refine hletters (List.forall_mem_cons.mpr ⟨?_, h.2⟩)
    have hfirst := h.1
    simp only [Char.isAlphanum, Bool.or_eq_true] at hfirst ⊢
    exact hfirst.imp_left (·.imp_left .inl)

/-- What the name that a text opens with stands for, by the sign behind it. -/
inductive Sign where
  | bare
  | quoted
  | braced
  | listed
  | applied

def Sign.of : Text → Sign
  | .char '"' :: _ => .quoted
  | .char '\x7b' :: _ => .braced
  | .char '[' :: _ => .listed
  | .char '<' :: _ => .applied
  | _ => .bare

def signs : List Letter := [.char '"', .char '\x7b', .char '[', .char '<']

def typeEnds : List Letter := [.char ',', .char '>', .char '\n']

def partEnds : List Letter := .char ' ' :: typeEnds

def opening (t : Text) : String × Sign :=
  (String.ofList ((t.takeWhile inName).filterMap Letter.char?), .of (t.dropWhile inName))

def ofName (name : String) : TypeExpr :=
  if name = "null" then .null else if name = "never" then .never else .ref name

/-- What a type that is no union may be when its text opens with a name and a sign. -/
inductive Fits : String × Sign → TypeExpr → Prop
  | bare (name : String) : Fits (name, .bare) (ofName name)
  | listed (name : String) : Fits (name, .listed) (.list (.ref name))
  | literal (name : String) (value : Text) : Fits (name, .quoted) (.literal value)
  | object (name : String) (members : List Member) (model : Option String) :
      Fits (name, .braced) (.object members model)
  | list {name : String} {item : TypeExpr} (hname : name = "Array") (hitem : ∀ ref, item ≠ .ref ref) :
      Fits (name, .applied) (.list item)
  | generic {name : String} {args : List TypeExpr} (hname : name ≠ "Array") (hsome : args ≠ []) :
      Fits (name, .applied) (.generic name args)

theorem opening_append {name : String} (hname : ∀ l ∈ (name : Text), inName l = true) {rest : Text}
    (hrest : ∀ l ∈ rest.head?, inName l = false) : opening (name ++ rest) = (name, .of rest) := by
  have hchars : (name : Text).filterMap Letter.char? = name.toList := by
    rw [Text.ofString, List.filterMap_map]
    exact List.filterMap_some
  rw [opening, Text.takeWhile_append_eq hname hrest, Text.dropWhile_append_eq hname hrest, hchars, String.ofList_toList]

theorem opening_append_ends {name : String} (hname : ∀ l ∈ (name : Text), inName l = true) {rest : Text}
    (hrest : OpensIn partEnds rest) : opening (name ++ rest) = (name, .bare) := by
  have hends : ∀ l ∈ partEnds, inName l = false ∧ ∀ r, Sign.of (l :: r) = .bare := by
    simp [partEnds, typeEnds, inName, Letter.char?, Sign.of]
  rw [opening_append hname fun l hl => (hends l (hrest l hl)).1]
  cases rest with
  | nil => rfl
  | cons l rest => rw [(hends l (hrest l rfl)).2]

theorem inName_of_literal {name : String} (h : name.toList.all (fun c => c.isAlphanum || c == '_' || c == '$') = true) :
    ∀ l ∈ (name : Text), inName l = true :=
  List.forall_mem_map.mpr (List.all_eq_true.mp h)

theorem opening_append_sign {name : String} (hname : ∀ l ∈ (name : Text), inName l = true) (l : Letter)
    (hl : l ∈ signs) (rest : Text) : opening (name ++ l :: rest) = (name, .of (l :: rest)) := by
  have hsigns : ∀ k ∈ signs, inName k = false := by simp [signs, inName, Letter.char?]
  refine opening_append hname fun k hk => ?_
  obtain rfl : l = k := Option.some.inj hk
  exact hsigns l hl

theorem ref_or_not (t : TypeExpr) : (∃ name, t = .ref name) ∨ ∀ name, t ≠ .ref name := by
  cases t <;> simp

theorem fits_opening {t : TypeExpr} (ht : t.Legible) (hpart : t.isUnion = false) {r : Text}
    (hr : OpensIn partEnds r) : Fits (opening (t.render ++ r)) t := by
  have hfront : ∀ l ∈ signs, ∀ rest, opening (l :: rest) = ("", .of (l :: rest)) :=
    @opening_append_sign "" (inName_of_literal rfl)
  cases ht with
  | @ref name hname hnull hnever =>
    have hself : ofName name = .ref name := by simp [ofName, hnull, hnever]
    rw [render, opening_append_ends (inName_of_isAsciiName hname) hr, ← hself]
    exact .bare name
  | literal value =>
    rw [render_literal, List.cons_append, hfront (.char '"') (by decide)]
    exact .literal "" value
  | null =>
    rw [render, opening_append_ends (inName_of_literal rfl) hr]
    exact .bare "null"
  | never =>
    rw [render, opening_append_ends (inName_of_literal rfl) hr]
    exact .bare "never"
  | @list item hitem =>
    obtain ⟨name, rfl⟩ | hother := ref_or_not item
    · cases hitem with
      | ref hname =>
        rw [render_names, List.append_assoc, List.cons_append,
          opening_append_sign (inName_of_isAsciiName hname) (.char '[') (by decide)]
        exact .listed name
    · rw [render_list hother, List.append_assoc, List.cons_append,
        opening_append_sign (inName_of_literal rfl) (.char '<') (by decide)]
      exact .list rfl hother
  | @generic name args hname harray hsome hargs =>
    rw [render_generic name hsome, List.append_assoc, List.cons_append,
      opening_append_sign (inName_of_isAsciiName hname) (.char '<') (by decide)]
    exact .generic harray hsome
  | union => cases hpart
  | @object members model hnames hmembers =>
    cases members with
    | nil =>
      rw [render_empty, List.cons_append, hfront (.char '\x7b') (by decide)]
      exact .object "" [] model
    | cons m members =>
      rw [render_object (List.cons_ne_nil m members), List.cons_append, hfront (.char '\x7b') (by decide)]
      exact .object "" (m :: members) model

/-! ## Reading back -/

def Reads (s : TypeExpr) : Prop :=
  ∀ t : TypeExpr, t.Legible → ∀ r q, OpensIn typeEnds r → OpensIn typeEnds q →
    s.render ++ r = t.render ++ q → s.reduce joinHalves = t.reduce joinHalves ∧ r = q

/-- A type that is no union is read back from its text wherever a part of a union may end. -/
def ReadsPart (s : TypeExpr) : Prop :=
  ∀ t : TypeExpr, t.Legible → t.isUnion = false → ∀ r q, OpensIn partEnds r → OpensIn partEnds q →
    s.render ++ r = t.render ++ q → s.reduce joinHalves = t.reduce joinHalves ∧ r = q

def inner : TypeExpr → List TypeExpr
  | .list item => [item]
  | .generic _ args => args
  | .object members _ => members.map (·.type)
  | _ => []

theorem Legible.of_mem_parts {t p : TypeExpr} (ht : t.Legible) (hp : p ∈ t.parts) : p.Legible ∧ p.isUnion = false := by
  cases hunion : t.isUnion with
  | false =>
    rw [parts_of_not_isUnion hunion, List.mem_singleton] at hp
    rw [hp]
    exact ⟨ht, hunion⟩
  | true =>
    cases ht with
    | union hseveral hflat hmembers => exact ⟨hmembers p hp, hflat p hp⟩
    | _ => cases hunion

theorem literal_append_inj {u v r q : Text} (h : render (.literal u) ++ r = render (.literal v) ++ q) :
    joinHalves u = joinHalves v ∧ r = q := by
  let fuel := u.length + v.length + 1
  have hread : ∀ w rest : Text, w.length < fuel →
      Json.readString [] fuel [] (w.flatMap (Json.writeLetter .ascii) ++ .char '"' :: rest) =
        .ok (joinHalves w, rest) :=
    fun w rest hw => Json.readString_ascii [] rest hw
  have hu := hread u r (by omega)
  have hv := hread v q (by omega)
  have hbody : u.flatMap (Json.writeLetter .ascii) ++ .char '"' :: r
      = v.flatMap (Json.writeLetter .ascii) ++ .char '"' :: q := by
    simpa [render_literal] using h
  rw [hbody, hv] at hu
  obtain ⟨hvalue, hend⟩ := Prod.mk.inj (Except.ok.inj hu)
  exact ⟨hvalue.symm, hend.symm⟩

theorem member_append_inj {m n : Member} (hm : isAsciiName m.name = true ∧ m.comment = none)
    (hn : isAsciiName n.name = true ∧ n.comment = none) (hreads : m.type.Reads) (hlegible : n.type.Legible)
    {r q : Text} (hr : OpensIn [.char '\n'] r) (hq : OpensIn [.char '\n'] q)
    (h : m.render ++ r = n.render ++ q) :
    ({ m with type := m.type.reduce joinHalves } : Member) = { n with type := n.type.reduce joinHalves } ∧ r = q := by
  have hcolon : ∀ (o : Bool) (rest : Text),
      ∀ l ∈ ((if o then [.char '?'] else []) ++ .char ':' :: .char ' ' :: rest : Text).head?, inName l = false := by
    intro o rest
    cases o <;> simp [inName, Letter.char?]
  rw [render_member hm.2, render_member hn.2] at h
  simp only [List.append_assoc, List.cons_append] at h
  obtain ⟨hname, hrest⟩ := append_inj_of_forall (inName_of_isAsciiName hm.1) (inName_of_isAsciiName hn.1)
    (hcolon m.isOptional _) (hcolon n.isOptional _) h
  have hopt : m.isOptional = n.isOptional ∧ m.type.render ++ r = n.type.render ++ q := by
    cases hmo : m.isOptional <;> cases hno : n.isOptional <;> rw [hmo, hno] at hrest <;> simp_all
  have hsub : [.char '\n'] ⊆ typeEnds := by simp [typeEnds]
  obtain ⟨htype, hend⟩ := hreads n.type hlegible r q (hr.mono hsub) (hq.mono hsub) hopt.2
  rw [Member.mk.injEq]
  exact ⟨⟨Text.ofString_inj.mp hname, htype, hopt.1, hm.2.trans hn.2.symm⟩, hend⟩

theorem object_append_inj {ms ns : List Member} {m n : Option String} (hms : Legible (.object ms m))
    (hns : Legible (.object ns n)) (hreads : ∀ t ∈ ms.map (·.type), t.Reads) {r q : Text}
    (h : render (.object ms m) ++ r = render (.object ns n) ++ q) :
    reduceMembers joinHalves ms = reduceMembers joinHalves ns ∧ r = q := by
  cases hms with
  | object hmnames hmtypes =>
  cases hns with
  | object hnnames hntypes =>
  by_cases hmsome : ms = [] <;> by_cases hnsome : ns = []
  · subst hmsome hnsome
    simpa [render_empty] using h
  · subst hmsome
    simp [render_empty, render_object hnsome] at h
  · subst hnsome
    simp [render_empty, render_object hmsome] at h
  · rw [render_object hmsome, render_object hnsome] at h
    simp only [List.append_assoc, List.cons_append, List.cons.injEq, true_and, List.nil_append] at h
    obtain ⟨hbody, hend⟩ := Text.indent_append_inj (by decide) h
    have htexts : Text.intercalate "\n" (ms.map Member.render) ++ []
        = Text.intercalate "\n" (ns.map Member.render) ++ [] := by
      exact congrArg (· ++ []) hbody
    have hread : ∀ x ∈ ms, ∀ y ∈ ns, ∀ r q, OpensIn [.char '\n'] r → OpensIn [.char '\n'] q →
        x.render ++ r = y.render ++ q →
        ({ x with type := x.type.reduce joinHalves } : Member) = { y with type := y.type.reduce joinHalves } ∧ r = q :=
      fun x hx y hy _ _ hr hq => member_append_inj (hmnames x hx) (hnnames y hy)
        (hreads x.type (List.mem_map_of_mem hx)) (hntypes y hy) hr hq
    have hnothing : OpensIn [] ([] : Text) := by simp [OpensIn]
    rw [reduceMembers_eq, reduceMembers_eq]
    exact ⟨(intercalate_inj (by simp) hmsome hnsome hread hnothing hnothing htexts).1, hend⟩

theorem list_append_inj {s t : TypeExpr} (hs : ∀ name, s ≠ .ref name) (ht : ∀ name, t ≠ .ref name)
    (hlegible : t.Legible) (hreads : s.Reads) {r q : Text}
    (h : render (.list s) ++ r = render (.list t) ++ q) :
    s.reduce joinHalves = t.reduce joinHalves ∧ r = q := by
  have hclose : ∀ rest, OpensIn typeEnds (.char '>' :: rest) := fun rest => opensIn_cons_iff.mpr (by decide)
  rw [render_list hs, render_list ht] at h
  simp only [List.append_assoc, List.cons_append, List.nil_append] at h
  have hitems := (List.cons.inj (List.append_cancel_left h)).2
  obtain ⟨hitem, hrest⟩ := hreads t hlegible _ _ (hclose r) (hclose q) hitems
  exact ⟨hitem, (List.cons.inj hrest).2⟩

theorem generic_append_inj {name : String} {ss ts : List TypeExpr} (hss : ss ≠ []) (hts : ts ≠ [])
    (hlegible : ∀ t ∈ ts, t.Legible) (hreads : ∀ s ∈ ss, s.Reads) {r q : Text}
    (h : render (.generic name ss) ++ r = render (.generic name ts) ++ q) :
    ss.map (·.reduce joinHalves) = ts.map (·.reduce joinHalves) ∧ r = q := by
  have hclose : ∀ rest : Text, OpensIn [.char '>'] (.char '>' :: rest) := fun rest =>
    opensIn_cons_iff.mpr List.mem_cons_self
  have hsub : [.char ',', .char '>'] ⊆ typeEnds := by simp [typeEnds]
  have hread : ∀ u ∈ ss, ∀ v ∈ ts, ∀ r q, OpensIn [.char ',', .char '>'] r → OpensIn [.char ',', .char '>'] q →
      u.render ++ r = v.render ++ q → u.reduce joinHalves = v.reduce joinHalves ∧ r = q :=
    fun u hu v hv r q hr hq => hreads u hu v (hlegible v hv) r q (hr.mono hsub) (hq.mono hsub)
  rw [render_generic name hss, render_generic name hts] at h
  simp only [List.append_assoc, List.cons_append, List.nil_append] at h
  have hitems := (List.cons.inj (List.append_cancel_left h)).2
  obtain ⟨hargs, hrest⟩ := intercalate_inj (by decide) hss hts hread (hclose r) (hclose q) hitems
  exact ⟨hargs, (List.cons.inj hrest).2⟩

theorem readsPart_of_inner {s : TypeExpr} (hs : s.Legible) (hpart : s.isUnion = false)
    (hinner : ∀ t ∈ s.inner, t.Reads) : s.ReadsPart := by
  intro t ht htpart r q hr hq h
  have hsfits := fits_opening hs hpart hr
  have htfits := fits_opening ht htpart hq
  rw [h] at hsfits
  generalize opening (t.render ++ q) = o at hsfits htfits
  cases hsfits with
  | bare name =>
    cases htfits
    exact ⟨rfl, List.append_cancel_left h⟩
  | listed name =>
    cases htfits
    exact ⟨rfl, List.append_cancel_left h⟩
  | literal name u =>
    cases htfits with
    | literal _ v =>
      obtain ⟨hvalue, hend⟩ := literal_append_inj h
      exact ⟨by rw [reduce, reduce, hvalue], hend⟩
  | object name ms m =>
    cases htfits with
    | object _ ns n =>
      obtain ⟨hmembers, hend⟩ := object_append_inj hs ht hinner h
      exact ⟨by rw [reduce, reduce, hmembers], hend⟩
  | list hname hi =>
    cases htfits with
    | list _ hj =>
      cases ht with
      | list hlegible =>
        obtain ⟨hitem, hend⟩ := list_append_inj hi hj hlegible (hinner _ List.mem_cons_self) h
        exact ⟨by rw [reduce, reduce, hitem], hend⟩
    | generic hother => exact absurd hname hother
  | generic hname hss =>
    cases htfits with
    | list hother => exact absurd hother hname
    | generic _ hts =>
      cases ht with
      | generic _ _ _ hlegible =>
        obtain ⟨hargs, hend⟩ := generic_append_inj hss hts hlegible hinner h
        exact ⟨by rw [reduce, reduce, reduceAll_eq, reduceAll_eq, hargs], hend⟩

theorem render_parts (t : TypeExpr) :
    t.render = Text.intercalate " | " (t.parts.map render) := by
  cases hunion : t.isUnion with
  | false => rw [parts_of_not_isUnion hunion, List.map_singleton, Text.intercalate_singleton]
  | true =>
    cases t with
    | union members => exact render_union members
    | _ => cases hunion

theorem Legible.reduce_eq {t : TypeExpr} (ht : t.Legible) (f : Text → Text) :
    t.reduce f = ofParts (t.parts.map (·.reduce f)) := by
  cases hunion : t.isUnion with
  | false => rw [parts_of_not_isUnion hunion, List.map_singleton, ofParts]
  | true =>
    cases ht with
    | @union members hseveral hflat hmembers =>
      have hne : ∀ u, members.map (·.reduce f) ≠ [u] := by
        intro u hone
        have hlen := congrArg List.length hone
        rw [List.length_map, List.length_singleton] at hlen
        omega
      rw [reduce, reduceAll_eq, parts, ofParts_of_ne hne]
    | _ => cases hunion

theorem Legible.parts_ne_nil {t : TypeExpr} (ht : t.Legible) : t.parts ≠ [] := by
  cases ht with
  | union hseveral => exact List.ne_nil_of_length_pos (Nat.lt_of_lt_of_le Nat.two_pos hseveral)
  | _ => exact List.cons_ne_nil _ _

theorem reads_of_parts {s : TypeExpr} (hs : s.Legible) (hparts : ∀ p ∈ s.parts, p.ReadsPart) : s.Reads := by
  intro t ht r q hr hq h
  rw [render_parts s, render_parts t] at h
  have hread : ∀ u ∈ s.parts, ∀ v ∈ t.parts, ∀ r q, OpensIn partEnds r → OpensIn partEnds q →
      u.render ++ r = v.render ++ q → u.reduce joinHalves = v.reduce joinHalves ∧ r = q := by
    intro u hu v hv
    obtain ⟨hlegible, hpart⟩ := ht.of_mem_parts hv
    exact hparts u hu v hlegible hpart
  obtain ⟨heq, hend⟩ := intercalate_inj (by decide) hs.parts_ne_nil ht.parts_ne_nil hread hr hq h
  exact ⟨by rw [hs.reduce_eq, ht.reduce_eq, heq], hend⟩

theorem readsPart_of_mem_parts {s : TypeExpr} (hs : s.Legible) : ∀ p ∈ s.parts, p.ReadsPart := by
  -- what is no union is its only part
  have hself : ∀ {t : TypeExpr}, t.Legible → t.isUnion = false → (∀ u ∈ t.inner, u.Reads) →
      ∀ p ∈ t.parts, p.ReadsPart := by
    intro t ht hpart hinner p hp
    rw [parts_of_not_isUnion hpart, List.mem_singleton] at hp
    rw [hp]
    exact readsPart_of_inner ht hpart hinner
  have hnone : ∀ t ∈ ([] : List TypeExpr), t.Reads := List.forall_mem_nil _
  induction hs with
  | ref hname hnull hnever => exact hself (.ref hname hnull hnever) rfl hnone
  | literal value => exact hself (.literal value) rfl hnone
  | null => exact hself .null rfl hnone
  | never => exact hself .never rfl hnone
  | list hitem ih => exact hself (.list hitem) rfl (List.forall_mem_singleton.mpr (reads_of_parts hitem ih))
  | generic hname harray hsome hargs ih =>
    exact hself (.generic hname harray hsome hargs) rfl fun u hu => reads_of_parts (hargs u hu) (ih u hu)
  | union hseveral hflat hmembers ih =>
    intro p hp
    refine ih p hp p ?_
    rw [parts_of_not_isUnion (hflat p hp)]
    exact List.mem_cons_self
  | object hnames hmembers ih =>
    refine hself (.object hnames hmembers) rfl (List.forall_mem_map.mpr fun m hm => ?_)
    exact reads_of_parts (hmembers m hm) (ih m hm)

theorem map_render_reduceAll {ts : List TypeExpr} (h : ∀ t ∈ ts, (t.reduce joinHalves).render = t.render) :
    (reduceAll joinHalves ts).map render = ts.map render := by
  rw [reduceAll_eq, List.map_map]
  exact List.map_congr_left h

theorem map_render_reduceMembers {ms : List Member}
    (h : ∀ m ∈ ms, (m.type.reduce joinHalves).render = m.type.render) :
    (reduceMembers joinHalves ms).map Member.render = ms.map Member.render := by
  rw [reduceMembers_eq, List.map_map]
  refine List.map_congr_left fun m hm => ?_
  rw [Function.comp_apply, Member.render, Member.render, h m hm]

theorem render_reduce (t : TypeExpr) : (t.reduce joinHalves).render = t.render := by
  induction t with
  | ref name => rw [reduce]
  | literal value => rw [reduce, render, render, ← Json.quoteWith_ascii, Json.quoteWith_joinHalves, Json.quoteWith_ascii]
  | null => rw [reduce]
  | never => rw [reduce]
  | list item ih =>
    rw [reduce]
    obtain ⟨name, rfl⟩ | hitem := ref_or_not item
    · rw [reduce]
    · have hreduced : ∀ name, item.reduce joinHalves ≠ .ref name := by
        intro name h
        cases item <;> rw [reduce] at h <;> cases h
        exact hitem _ rfl
      rw [render_list hreduced, render_list hitem, ih]
  | generic name args ih =>
    rw [reduce]
    by_cases hargs : args = []
    · rw [hargs, reduceAll]
    · rw [render_generic name (by simpa [reduceAll_eq] using hargs), render_generic name hargs,
        map_render_reduceAll ih]
  | union members ih => rw [reduce, render_union, render_union, map_render_reduceAll ih]
  | object members name ih =>
    rw [reduce]
    by_cases hmembers : members = []
    · rw [hmembers, reduceMembers, render_empty, render_empty]
    · rw [render_object (by simpa [reduceMembers_eq] using hmembers), render_object hmembers, body, body,
        map_render_reduceMembers ih]

/-- Two legible types have the same text exactly when they are the same but for halves of pairs that meet in a literal.
So types in whose literals no two such halves meet have different texts when they are not the same. -/
theorem render_tells_apart {s t : TypeExpr} (hs : s.Legible) (ht : t.Legible) :
    (s.render = t.render ↔ s.reduce joinHalves = t.reduce joinHalves) ∧
      ((∀ v, .literal v ∈ s.constituents ++ t.constituents → Unpaired v) → same s t = false →
        s.render ≠ t.render) := by
  have hreduce : s.render = t.render → s.reduce joinHalves = t.reduce joinHalves := by
    intro h
    have hnothing : OpensIn typeEnds [] := by simp [OpensIn]
    exact (reads_of_parts hs (readsPart_of_mem_parts hs) t ht [] [] hnothing hnothing (by rw [h])).1
  refine ⟨⟨hreduce, fun h => by rw [← render_reduce s, h, render_reduce]⟩, fun hliterals hdiffer h => ?_⟩
  have hself : ∀ u : TypeExpr, u.constituents ⊆ s.constituents ++ t.constituents →
      u.reduce joinHalves = u.reduce id := by
    refine fun u hu => reduce_congr u fun v hv => ?_
    rw [(Text.joinHalves_eq_self_iff v).mpr (hliterals v (hu hv)), id]
  have hsame : same s t = true := by
    rw [same_iff, ← hself s (List.subset_append_left _ _), ← hself t (List.subset_append_right _ _)]
    exact hreduce h
  rw [hsame] at hdiffer
  cases hdiffer

/-- The two halves of the first character that needs a pair are written as that character is. -/
theorem halves_render_alike :
    ¬ ∀ s t : TypeExpr, s.Legible → t.Legible → same s t = false → s.render ≠ t.render := by
  intro h
  have hone : Legible (.literal [.half ⟨0xD800, rfl⟩, .half ⟨0xDC00, rfl⟩]) := .literal _
  have hother : Legible (.literal [.char (.ofNat 0x10000)]) := .literal _
  exact h _ _ hone hother (by decide) (by simp only [render]; decide +kernel)

/-- A literal that looks like a union, in the members of an object in a list. -/
theorem quoted_union_told_apart :
    let object := fun shown : List TypeExpr => TypeExpr.generic "Enumerable" [.list (.object
      [⟨"kind", .union (shown ++ [.null]), true, none⟩, ⟨"tags", .list (.ref "string"), false, none⟩] (some "Post"))]
    let one := object [.literal "draft\" | \"final"]
    let other := object [.literal "draft", .literal "final"]
    one.Legible ∧ other.Legible ∧ one.render ≠ other.render := by
  intro object one other
  have hobject : ∀ values : List Text, values ≠ [] → (object (values.map .literal)).Legible := by
    intro values hsome
    have hshown : ∀ t ∈ values.map TypeExpr.literal ++ [.null], t.isUnion = false ∧ t.Legible := by
      intro t ht
      obtain ht | ht := List.mem_append.mp ht
      · obtain ⟨v, -, rfl⟩ := List.mem_map.mp ht
        exact ⟨rfl, .literal v⟩
      · rw [List.mem_singleton.mp ht]
        exact ⟨rfl, .null⟩
    have hseveral : 2 ≤ (values.map TypeExpr.literal ++ [TypeExpr.null]).length := by
      have hpos := List.length_pos_of_ne_nil hsome
      rw [List.length_append, List.length_map, List.length_singleton]
      omega
    refine .generic (by decide) (by decide) (List.cons_ne_nil _ _) (List.forall_mem_singleton.mpr (.list ?_))
    refine .object ?_ (List.forall_mem_cons.mpr ⟨?_, List.forall_mem_singleton.mpr ?_⟩)
    · simp only [List.forall_mem_cons]
      decide
    · exact .union hseveral (fun t ht => (hshown t ht).1) fun t ht => (hshown t ht).2
    · exact .list (.ref (by decide) (by decide) (by decide))
  have hone : one.Legible := hobject ["draft\" | \"final"] (by decide)
  have hother : other.Legible := hobject ["draft", "final"] (by decide)
  have hliterals : ∀ v, .literal v ∈ one.constituents ++ other.constituents → Unpaired v := by
    have hplain : ∀ v ∈ (["draft\" | \"final", "draft", "final"] : List Text), Unpaired v := by decide
    intro v hv
    apply hplain
    simpa [one, other, object, constituents, constituentsAll, constituentsMembers] using hv
  have hdiffer : same one other = false := by decide
  exact ⟨hone, hother, (render_tells_apart hone hother).2 hliterals hdiffer⟩

end TypedClient.TypeExpr
