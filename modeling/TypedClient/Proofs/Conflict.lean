import TypedClient.Proofs.Selection
import TypedClient.Proofs.Validity

set_option autoImplicit false

namespace TypedClient.Document

variable {d : Document} {name : String} {p : Projected} {s : Selector} {way : Projection}

/-- Every record type has an output type, and the relations of the output type lead to record types. -/
def HasOutputs (d : Document) : Prop :=
  ∀ e ∈ d.entities, ∃ t, d.outputType? e.name = some t ∧ ∀ f ∈ t.relations, f.target.type ∈ d.entityNames

theorem code_of_mem_outputTypeDefects {x : Defect} (h : x ∈ d.outputTypeDefects) :
    x.code = "OUTPUT_TYPE_MISSING" ∨ x.code = "RELATION_TARGET_UNKNOWN" := by
  obtain ⟨e, -, hx⟩ := List.mem_flatMap.mp h
  cases ht : d.outputType? e.name with
  | none =>
    rw [ht] at hx
    rw [List.mem_singleton.mp hx]
    exact .inl rfl
  | some t =>
    rw [ht] at hx
    obtain ⟨f, -, rfl⟩ := List.mem_map.mp hx
    exact .inr rfl

theorem hasOutputs_of_codes {settings : Option Settings}
    (hmissing : "OUTPUT_TYPE_MISSING" ∉ (d.findings settings).codes)
    (hunknown : "RELATION_TARGET_UNKNOWN" ∉ (d.findings settings).codes) : d.HasOutputs := by
  refine harmless_outputTypeDefects_iff.mp fun x hx => ?_
  have hcode : x.code ∈ (d.findings settings).codes := by
    refine List.mem_map.mpr ⟨x.finding, List.mem_map_of_mem ?_, rfl⟩
    simp only [defects, List.mem_append]
    exact .inl (.inl (.inl (.inl hx)))
  -- a defect of this check has one of the two codes, so there is none
  rcases code_of_mem_outputTypeDefects hx with h | h
  · exact absurd (h ▸ hcode) hmissing
  · exact absurd (h ▸ hcode) hunknown

theorem HasOutputs.exists_projected (hd : d.HasOutputs) (hname : name ∈ d.entityNames) :
    ∃ p, d.projected? name = some p ∧ ∀ b ∈ p.payload.relations, b.target ∈ d.entityNames := by
  obtain ⟨e, he⟩ : ∃ e, d.entity? name = some e := by
    obtain ⟨e, hmem, hn⟩ := List.mem_map.mp hname
    exact Option.isSome_iff_exists.mp (List.find?_isSome.mpr ⟨e, hmem, by simpa using hn⟩)
  have hn : e.name = name := by simpa using List.find?_some he
  obtain ⟨t, ht, htargets⟩ := hd e (List.mem_of_find?_eq_some he)
  refine ⟨⟨e, t.payload⟩, projected?_eq_some_iff.mpr ⟨t, he, hn ▸ ht, rfl⟩, fun b hb => ?_⟩
  obtain ⟨f, hf, rfl⟩ := List.mem_map.mp hb
  exact htargets f hf

/-- A selector on a record type leads to a selector on a record type: a key that is asked for under either way
to select, and that has no plain type there, is followed along the relation that it names. -/
inductive Reaches (d : Document) : String → Selector → String → Selector → Prop where
  | refl (name : String) (s : Selector) : Reaches d name s name s
  | step {name key target : String} {s child next inner : Selector} {p : Projected} {way : Projection}
      {b : Branch} :
      d.projected? name = some p → s.under? way = some child → (key, next) ∈ child.asked →
      p.plain? way key = none → p.payload.relation? key = some b → Reaches d b.target next target inner →
      Reaches d name s target inner

def ReachesConflict (d : Document) (name : String) (s : Selector) : Prop :=
  ∃ target inner, d.Reaches name s target inner ∧ inner.IsConflict

theorem keyMember_error {entry : String × Selector} {fault : SelectorFault}
    (h : d.keyMember p way entry = .error fault) :
    ∃ b, p.plain? way entry.1 = none ∧ p.payload.relation? entry.1 = some b ∧
      d.resolve b.target entry.2 = .error fault := by
  rw [keyMember, except_map_eq_error_iff] at h
  cases hplain : p.plain? way entry.1 with
  | some type =>
    rw [keyType_of_plain hplain] at h
    cases h
  | none =>
    cases hrel : p.payload.relation? entry.1 with
    | none =>
      rw [keyType_of_unknown hplain hrel] at h
      cases h
    | some b =>
      rw [keyType_of_relation hplain hrel, except_map_eq_error_iff] at h
      exact ⟨b, rfl, rfl, h⟩

theorem HasOutputs.conflict_of_error (hd : d.HasOutputs) (hname : name ∈ d.entityNames)
    {fault : SelectorFault} (h : d.resolve name s = .error fault) :
    ∃ target inner, fault = .conflict target ∧ d.Reaches name s target inner ∧ inner.IsConflict := by
  -- along the selectors that are asked for; which record type one is evaluated on is open
  induction s using Selector.asked_induction generalizing name with
  | step s ih =>
    obtain ⟨p, hp, htargets⟩ := hd.exists_projected hname
    rcases s.ways_cases with hconflict | hnone | ⟨way, child, hchild, hother⟩
    · rw [resolve_of_isConflict hp hconflict] at h
      cases h
      exact ⟨name, s, rfl, .refl name s, hconflict⟩
    · rw [resolve_of_unselective hp hnone] at h
      cases h
    · rw [resolve_of_under? hp hchild hother, except_map_eq_error_iff] at h
      obtain ⟨⟨key, next⟩, hentry, herror⟩ := mapM_eq_error h
      obtain ⟨b, hplain, hrel, hnext⟩ := keyMember_error herror
      have htarget : b.target ∈ d.entityNames := htargets b (List.mem_of_find?_eq_some hrel)
      obtain ⟨target, inner, rfl, hreach, hconflict⟩ :=
        ih way child hchild (key, next) hentry htarget hnext
      exact ⟨target, inner, rfl, .step hp hchild hentry hplain hrel hreach, hconflict⟩

theorem isOk_of_reaches {target : String} {inner : Selector} (hreach : d.Reaches name s target inner)
    (h : ∃ type, d.resolve name s = .ok type) : ∃ type, d.resolve target inner = .ok type := by
  induction hreach with
  | refl => exact h
  | step hp hchild hentry hplain hrel _ ih =>
    obtain ⟨type, htype⟩ := h
    rw [resolve_of_under? hp hchild (other_of_resolve hp htype hchild), except_map_eq_ok_iff] at htype
    obtain ⟨members, hmembers, -⟩ := htype
    obtain ⟨m, -, hm⟩ := forall₂_exists_right ((mapM_eq_ok_iff _ _ _).mp hmembers) hentry
    rw [keyMember, keyType_of_relation hplain hrel, except_map_eq_ok_iff] at hm
    obtain ⟨_, hwrapped, -⟩ := hm
    obtain ⟨payload, hpayload, -⟩ := (except_map_eq_ok_iff _ _ _).mp hwrapped
    exact ih ⟨payload, hpayload⟩

theorem HasOutputs.mem_of_reaches (hd : d.HasOutputs) (hname : name ∈ d.entityNames)
    {target : String} {inner : Selector} (hreach : d.Reaches name s target inner) : target ∈ d.entityNames := by
  induction hreach with
  | refl => exact hname
  | step hp _ _ _ hrel _ ih =>
    obtain ⟨q, hq, htargets⟩ := hd.exists_projected hname
    cases hp.symm.trans hq
    exact ih (htargets _ (List.mem_of_find?_eq_some hrel))

theorem HasOutputs.not_isOk_of_reaches (hd : d.HasOutputs) (hname : name ∈ d.entityNames)
    {target : String} {inner : Selector} (hreach : d.Reaches name s target inner)
    (hconflict : inner.IsConflict) : ¬ ∃ type, d.resolve name s = .ok type := by
  intro hok
  obtain ⟨type, h⟩ := isOk_of_reaches hreach hok
  obtain ⟨p, hp, -⟩ := hd.exists_projected (hd.mem_of_reaches hname hreach)
  rw [resolve_of_isConflict hp hconflict] at h
  cases h

/-- In a document whose record types all have output types with known targets, a selector on a record type has
a payload unless it leads to a selector that uses both ways to select. Then the fault is such a conflict. -/
theorem resolve_of_complete (d : Document) (settings : Option Settings)
    (hmissing : "OUTPUT_TYPE_MISSING" ∉ (d.findings settings).codes)
    (hunknown : "RELATION_TARGET_UNKNOWN" ∉ (d.findings settings).codes) (e : Entity) (he : e ∈ d.entities)
    (s : Selector) :
    (∀ cause, d.resolve e.name s ≠ .error (.inconsistent cause)) ∧
      ((∃ target, d.resolve e.name s = .error (.conflict target)) ↔ d.ReachesConflict e.name s) ∧
      (¬ d.ReachesConflict e.name s → ∃ type, d.resolve e.name s = .ok type) := by
  have hd := hasOutputs_of_codes hmissing hunknown
  have hname : e.name ∈ d.entityNames := List.mem_map_of_mem he
  have herror : ∀ fault, d.resolve e.name s = .error fault →
      ∃ target, fault = .conflict target ∧ d.ReachesConflict e.name s := fun fault h => by
    obtain ⟨target, inner, rfl, hreach⟩ := hd.conflict_of_error hname h
    exact ⟨target, rfl, target, inner, hreach⟩
  refine ⟨?_, ⟨?_, ?_⟩, ?_⟩
  · intro cause h
    obtain ⟨target, hfault, -⟩ := herror _ h
    cases hfault
  · rintro ⟨target, h⟩
    obtain ⟨_, -, hreach⟩ := herror _ h
    exact hreach
  · rintro ⟨target, inner, hreach, hconflict⟩
    cases h : d.resolve e.name s with
    | ok type => exact absurd ⟨type, h⟩ (hd.not_isOk_of_reaches hname hreach hconflict)
    | error fault =>
      obtain ⟨target, rfl, -⟩ := herror fault h
      exact ⟨target, rfl⟩
  · intro hfree
    cases h : d.resolve e.name s with
    | ok type => exact ⟨type, rfl⟩
    | error fault =>
      obtain ⟨_, -, hreach⟩ := herror fault h
      exact absurd hreach hfree

/-- A selector that follows the relations of the blog round and ends in a conflict at a post. -/
def roundConflict : Selector :=
  .node [("include", .node [("posts", .node [("select", .node [("author",
    .node [("include", .node [("posts", .node [("select", .on), ("include", .on)])])])])])])]

theorem blog_reaches_conflict :
    let user := blog.entities[0]
    "OUTPUT_TYPE_MISSING" ∉ (blog.findings none).codes ∧
      "RELATION_TARGET_UNKNOWN" ∉ (blog.findings none).codes ∧ user ∈ blog.entities ∧
      blog.ReachesConflict user.name roundConflict ∧
      blog.resolve user.name roundConflict = .error (.conflict "Post") := by
  intro user
  have hcodes : (blog.findings none).codes = [] := by decide +kernel
  have hmissing : "OUTPUT_TYPE_MISSING" ∉ (blog.findings none).codes := by simp [hcodes]
  have hunknown : "RELATION_TARGET_UNKNOWN" ∉ (blog.findings none).codes := by simp [hcodes]
  have hmem : user ∈ blog.entities := by decide
  have hresolve : blog.resolve user.name roundConflict = .error (.conflict "Post") := rfl
  obtain ⟨-, hiff, -⟩ := resolve_of_complete blog none hmissing hunknown user hmem roundConflict
  exact ⟨hmissing, hunknown, hmem, hiff.mp ⟨"Post", hresolve⟩, hresolve⟩

end TypedClient.Document
