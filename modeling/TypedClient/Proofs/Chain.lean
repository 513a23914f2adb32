import TypedClient.Proofs.Selection
import TypedClient.Proofs.Validity

set_option autoImplicit false

/-!
# The written and the evaluated projection

A payload type is written as a chain of tests for the names of relations, each followed by its answer. A
reader takes the first test that a key passes. The evaluation of a selector looks a key up among the plain
fields and then among the relations. Both come to the same relation for every key, also where relations
share a name.
-/

namespace TypedClient

/-! ## Reading the chain -/

def testedName? (line : Text) : Option Text := do
  let rest ← List.isPrefixOf? (": P extends '" : Text) line
  List.isSuffixOf? ("'" : Text) rest

def behind? (mark line : Text) : Option Text := mark.isPrefixOf? line

/-- The answer of a chain for a key: that of the first test for the key, or what stands in the last line. -/
def chainAnswer? (key : String) : List Text → Option Text
  | [] => none
  | [last] => behind? ": " last
  | test :: answer :: rest =>
    match testedName? test with
    | some name => if name = key then behind? "? " answer else chainAnswer? key rest
    | none => none

theorem testedName?_guardLine (name : String) : testedName? (Payload.guardLine name) = some ↑name := by
  have hprefix : List.isPrefixOf? (": P extends '" : Text) (Payload.guardLine name) = some (name ++ ("'" : Text)) := by
    rw [List.isPrefixOf?_eq_some_iff_append_eq, Payload.guardLine, Text.ofString_append, Text.ofString_append,
      List.append_assoc]
  rw [testedName?, hprefix, Option.bind_eq_bind, Option.bind_some]
  exact List.isSuffixOf?_eq_some_iff_append_eq.mpr rfl

theorem behind?_append (mark text : Text) : behind? mark (mark ++ text) = some text :=
  List.isPrefixOf?_eq_some_iff_append_eq.mpr rfl

theorem chainAnswer?_chainLines (p : Payload) (way : Projection) (key : String) :
    chainAnswer? key (p.chainLines way) =
      some ((p.relation? key).elim ("never" : Text) fun b => (b.payloadRef way).render) := by
  obtain ⟨entity, relations⟩ := p
  change chainAnswer? key
      (relations.flatMap (fun b => [(Payload.guardLine b.name : Text), Payload.answerLine (b.payloadRef way)])
        ++ [(": never" : Text)]) =
    some ((relations.find? (·.name == key)).elim ("never" : Text) fun b => (b.payloadRef way).render)
  induction relations with
  | nil => exact behind?_append ": " "never"
  | cons b rest ih =>
    rw [List.flatMap_cons, List.append_assoc, List.cons_append, List.cons_append, List.nil_append,
      chainAnswer?, testedName?_guardLine]
    simp only [Text.ofString_inj]
    by_cases hb : b.name = key
    · rw [List.find?_cons_of_pos (by simpa using hb)]
      simp only [if_pos hb]
      exact behind?_append "? " _
    · rw [List.find?_cons_of_neg (by simpa using hb)]
      simp only [if_neg hb]
      exact ih

/-! ## Looking a key up in what is evaluated -/

theorem find?_putMember (ms : List Member) (m : Member) (key : String) :
    (putMember ms m).find? (·.name == key) =
      if m.name = key then some m else ms.find? (·.name == key) := by
  unfold putMember
  by_cases hany : ms.any (·.name == m.name)
  · rw [if_pos hany, List.find?_map]
    -- what is replaced keeps its name, so the same place is found as before
    have hnames : (fun n : Member => n.name == key) ∘ (fun n => if n.name == m.name then m else n) =
        fun n => n.name == key := by
      funext n
      by_cases hn : n.name = m.name <;> simp [hn]
    rw [hnames]
    by_cases hm : m.name = key
    · obtain ⟨n, hn⟩ : ∃ n, ms.find? (·.name == key) = some n :=
        Option.isSome_iff_exists.mp (List.find?_isSome.mpr (by simpa [hm] using hany))
      have hname : n.name = key := by simpa using List.find?_some hn
      simp [hn, hname, hm]
    · cases hn : ms.find? (·.name == key) with
      | none => simp [hm]
      | some n =>
        have hname : n.name = key := by simpa using List.find?_some hn
        have hother : ¬ key = m.name := fun h => hm h.symm
        simp [hname, hm, hother]
  · rw [if_neg hany, List.find?_append, List.find?_singleton]
    by_cases hm : m.name = key
    · have hnone : ms.find? (·.name == key) = none := by
        simpa [hm] using hany
      simp [hnone, hm]
    · simp [hm]

theorem find?_foldl_putMember (found init : List Member) (key : String) :
    (found.foldl putMember init).find? (·.name == key) =
      (found.reverse.find? (·.name == key)).or (init.find? (·.name == key)) := by
  induction found generalizing init with
  | nil => rfl
  | cons m rest ih =>
    rw [List.foldl_cons, ih, find?_putMember, List.reverse_cons, List.find?_append, List.find?_singleton,
      Option.or_assoc]
    congr 1
    by_cases hm : m.name = key <;> simp [hm]

theorem Projected.get?_assemble (p : Projected) (way : Projection) {found : List Member} {key : String}
    (h : key ∈ found.map (·.name)) :
    ∃ m ∈ found, m.name = key ∧ (p.assemble way found).get? key = some m.type := by
  obtain ⟨n, hn, hname⟩ := List.mem_map.mp h
  cases way
  · obtain ⟨m, hm⟩ : ∃ m, found.find? (·.name == key) = some m :=
      Option.isSome_iff_exists.mp (List.find?_isSome.mpr ⟨n, hn, by simpa using hname⟩)
    refine ⟨m, List.mem_of_find?_eq_some hm, by simpa using List.find?_some hm, ?_⟩
    change (found.find? (·.name == key)).map (·.type) = some m.type
    rw [hm, Option.map_some]
  · obtain ⟨m, hm⟩ : ∃ m, found.reverse.find? (·.name == key) = some m :=
      Option.isSome_iff_exists.mp
        (List.find?_isSome.mpr ⟨n, List.mem_reverse.mpr hn, by simpa using hname⟩)
    refine ⟨m, List.mem_reverse.mp (List.mem_of_find?_eq_some hm), by simpa using List.find?_some hm, ?_⟩
    change ((found.foldl putMember (p.initial .include)).find? (·.name == key)).map (·.type) = some m.type
    rw [find?_foldl_putMember, hm, Option.some_or, Option.map_some]

namespace Document

variable {d : Document}

/-- The type of a key under a projection: the plain type that `select` gives a field of the value type, or else
what the first relation of that name makes of the payload of its target, or else `never`. -/
structure TypesKey (d : Document) (e : Entity) (t : OutputType) (way : Projection) (key : String)
    (s : Selector) (type : TypeExpr) : Prop where
  plain : ∀ own, way = .select → e.valueShape.get? key = some own → type = own
  relation : (way = .select → e.valueShape.get? key = none) → ∀ b, t.payload.relation? key = some b →
    ∃ payload, d.resolve b.target s = .ok payload ∧ type = b.wrap payload
  unknown : (way = .select → e.valueShape.get? key = none) → t.payload.relation? key = none → type = .never

theorem typesKey_of_keyType {e : Entity} {t : OutputType} {way : Projection} {key : String} {s : Selector}
    {type : TypeExpr} (h : d.keyType ⟨e, t.payload⟩ way key s = .ok type) :
    d.TypesKey e t way key s type := by
  have hplain : (way = .select → e.valueShape.get? key = none) →
      (⟨e, t.payload⟩ : Projected).plain? way key = none := by
    intro hnone
    cases way
    · exact hnone rfl
    · rfl
  constructor
  case plain =>
    rintro own rfl hget
    have hselect : (⟨e, t.payload⟩ : Projected).plain? .select key = some own := hget
    rw [keyType_of_plain hselect] at h
    cases h
    rfl
  case relation =>
    intro hnone b hb
    rw [keyType_of_relation (hplain hnone) hb] at h
    obtain ⟨payload, hpayload, rfl⟩ := (except_map_eq_ok_iff _ _ _).mp h
    exact ⟨payload, hpayload, rfl⟩
  case unknown =>
    intro hnone hrel
    rw [keyType_of_unknown (hplain hnone) hrel] at h
    cases h
    rfl

/-- For every key, the written chain answers with the payload of the first relation of that name, and `never`
where there is none; and where a selector has a payload, every key that it asks for has there the plain type of
a field, which only `select` gives, or else what the same relation makes of its target's payload, or else
`never`. -/
theorem projections_agree (t : OutputType) (way : Projection) (key : String) :
    chainAnswer? key (t.payload.chainLines way) =
        some ((t.payload.relation? key).elim ("never" : Text) fun b => (b.payloadRef way).render) ∧
      ∀ (d : Document) (e : Entity) (s child : Selector) (payload : TypeExpr),
        d.entity? e.name = some e → d.outputType? e.name = some t → s.under? way = some child →
        d.resolve e.name s = .ok payload → key ∈ child.trueKeys →
        ∃ next type, (key, next) ∈ child.asked ∧ payload.get? key = some type ∧
          d.TypesKey e t way key next type := by
  refine ⟨chainAnswer?_chainLines t.payload way key, ?_⟩
  intro d e s child payload he ht hchild hresolve hkey
  have hp : d.projected? e.name = some ⟨e, t.payload⟩ := projected?_eq_some_iff.mpr ⟨t, he, ht, rfl⟩
  have hother : s.under? way.other = none := by
    rcases s.ways_cases with hconflict | hnone | ⟨w, _, hw, hother⟩
    · rw [resolve_of_isConflict hp hconflict] at hresolve
      cases hresolve
    · simp [hnone] at hchild
    · cases way <;> cases w <;> simp_all [Projection.other]
  rw [resolve_of_under? hp hchild hother, except_map_eq_ok_iff] at hresolve
  obtain ⟨found, hfound, rfl⟩ := hresolve
  have hmembers := (mapM_eq_ok_iff _ _ _).mp hfound
  have hnames : found.map (·.name) = child.trueKeys :=
    map_eq_of_forall₂ hmembers fun entry m hm => by
      obtain ⟨type, -, rfl⟩ := (except_map_eq_ok_iff _ _ _).mp hm
      rfl
  obtain ⟨m, hm, rfl, hget⟩ := Projected.get?_assemble ⟨e, t.payload⟩ way (hnames ▸ hkey)
  obtain ⟨⟨name, next⟩, hentry, hmember⟩ := forall₂_exists_left hmembers hm
  obtain ⟨type, htype, rfl⟩ := (except_map_eq_ok_iff _ _ _).mp hmember
  exact ⟨next, type, hentry, hget, typesKey_of_keyType htype⟩

def twoPosts : OutputType :=
  ⟨"User", [{ name := "id", target := { type := "Int" } },
    { name := "posts", target := { type := "Post", kind := .object, isList := true } },
    { name := "posts", target := { type := "User", kind := .object } }]⟩

def twoPostsBlog : Document :=
  { blog with schema.outputTypes := blog.schema.outputTypes ++ [twoPosts] }

theorem twoPosts_first :
    let user := blog.entities[0]
    let selector : Selector := .node [("include", .node [("posts", .on)])]
    chainAnswer? "posts" (twoPosts.payload.chainLines .include) =
        some "Array<PostGetPayload<S['include'][P]>>" ∧
      twoPostsBlog.entity? "User" = some user ∧ twoPostsBlog.outputType? "User" = some twoPosts ∧
      ∃ payload, twoPostsBlog.resolve "User" selector = .ok payload ∧
        payload.get? "posts" = some (.list blog.entities[1].valueShape) := by
  intro user selector
  obtain ⟨hchain, heval⟩ := projections_agree twoPosts .include "posts"
  refine ⟨hchain, rfl, rfl, _, rfl, ?_⟩
  obtain ⟨next, type, hentry, hget, htypes⟩ :=
    heval twoPostsBlog user selector (.node [("posts", .on)]) _ rfl rfl rfl rfl (by decide)
  obtain rfl : next = .on := by
    simpa [Selector.asked, Selector.entries, Selector.isTrue] using hentry
  obtain ⟨payload, hpayload, rfl⟩ :=
    htypes.relation (by intro hway; cases hway) ⟨"posts", "Post", true, true⟩ rfl
  cases hpayload
  exact hget

end Document

end TypedClient
