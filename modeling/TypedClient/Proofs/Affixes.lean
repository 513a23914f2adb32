import TypedClient.Proofs.Collision

set_option autoImplicit false

/-!
# Names with something before and after

An identifier is the name of a record type between the two texts of a role. For one record type the roles are told
apart by how much they add, and where two add equally much by what stands behind. Two record types share an
identifier only where one name is the other with more around it, or where the names have a middle in common that
the argument types of both complete to the same text.
-/

namespace TypedClient

/-! ## One record type, one role -/

namespace Role

def width (role : Role) : Nat := role.affixes.1.length + role.affixes.2.length

theorem eq_of_affixes_eq {r q : Role} (h : r.affixes = q.affixes) : r = q := by
  have hall : ∀ r ∈ all, ∀ q ∈ all, r.affixes = q.affixes → r = q := by decide
  exact hall r r.mem_all q q.mem_all h

theorem before_eq_of_width_eq {r q : Role} (h : r.width = q.width) : r.affixes.1 = q.affixes.1 := by
  have hall : ∀ r ∈ all, ∀ q ∈ all, r.width = q.width → r.affixes.1 = q.affixes.1 := by decide
  exact hall r r.mem_all q q.mem_all h

end Role

theorem length_identifier (role : Role) (entity : String) :
    (identifier role entity).length = role.width + entity.length := by
  rw [identifier, String.length_append, String.length_append, Role.width]
  omega

theorem role_eq_of_identifier_eq {r q : Role} {entity : String}
    (h : identifier r entity = identifier q entity) : r = q := by
  have hwidth : r.width = q.width := by
    have hlength := congrArg String.length h
    rw [length_identifier, length_identifier] at hlength
    omega
  have hbefore := Role.before_eq_of_width_eq hwidth
  have hafter : r.affixes.2 = q.affixes.2 := by
    rw [identifier, identifier, hbefore] at h
    exact (String.append_right_inj _).mp h
  exact Role.eq_of_affixes_eq (Prod.ext hbefore hafter)

theorem entity_eq_of_identifier_eq {role : Role} {e f : String} (h : identifier role e = identifier role f) :
    e = f := by
  rw [identifier, identifier] at h
  exact (String.append_right_inj _).mp ((String.append_left_inj _).mp h)

/-- The sixteen identifiers of a record type are all different, whatever its name is, and in one role different
record types have different identifiers. -/
theorem identifiers_apart :
    (∀ entity, ((derivedFrom [entity]).map (·.name)).length = 16 ∧
        ((derivedFrom [entity]).map (·.name)).Nodup) ∧
      ∀ role e f, e ≠ f → identifier role e ≠ identifier role f := by
  refine ⟨fun entity => ?_, fun role e f hne h => hne (entity_eq_of_identifier_eq h)⟩
  have hnames : (derivedFrom [entity]).map (·.name) = Role.all.map fun role => identifier role entity := by
    simp [derivedFrom, Function.comp_def, Derived.name]
  rw [hnames]
  exact ⟨by rw [List.length_map]; rfl, Role.nodup_all.map fun r q h => role_eq_of_identifier_eq h⟩

theorem affixed_names_apart :
    ((derivedFrom ["FindOneArgs"]).map (·.name)).Nodup ∧ "FindOneArgs" ≠ "Args" ∧
      identifier (.args (some .findOne)) "FindOneArgs" ≠ identifier (.args (some .findOne)) "Args" := by
  have hne : "FindOneArgs" ≠ "Args" := by decide
  exact ⟨(identifiers_apart.1 "FindOneArgs").2, hne, identifiers_apart.2 _ _ _ hne⟩

/-! ## Two record types -/

/-- One name is the other with more before it, behind it or on both sides. -/
def Extends (long short : String) : Prop :=
  ∃ before after, (before ≠ "" ∨ after ≠ "") ∧ long = before ++ short ++ after

def leadingTexts : List String := ["FindOne", "FindMany", "Aggregate"]

/-- What the argument types of the other actions put behind the name, up to the ending that all have. -/
def trailingTexts : List String := ["Create", "Update", "UpdateMany", "Upsert", "Delete", "DeleteMany"]

/-- Two names have a middle in common, to which the one adds a leading text and the other a trailing one. Then an
argument type of each adds what only the other name has. -/
def Interlocks (e f : String) : Prop :=
  ∃ before ∈ leadingTexts, ∃ after ∈ trailingTexts, ∃ middle, e = before ++ middle ∧ f = middle ++ after

theorem Extends.subset {long short : String} (h : Extends long short) :
    short.toList ⊆ long.toList ∧ short ≠ long := by
  obtain ⟨before, after, hmore, rfl⟩ := h
  refine ⟨fun c hc => by simp [hc], fun heq => ?_⟩
  have hlength := congrArg String.length heq
  rw [String.length_append, String.length_append] at hlength
  rcases hmore with hbefore | hafter
  · exact hbefore (String.length_eq_zero_iff.mp (by omega))
  · exact hafter (String.length_eq_zero_iff.mp (by omega))

theorem append_eq_append_cases {a b c d : String} (h : a ++ b = c ++ d) :
    (∃ w, c = a ++ w ∧ b = w ++ d) ∨ ∃ w, a = c ++ w ∧ d = w ++ b := by
  have hlist := congrArg String.toList h
  rw [String.toList_append, String.toList_append] at hlist
  rcases List.append_eq_append_iff.mp hlist with ⟨w, hc, hb⟩ | ⟨w, ha, hd⟩
  · exact .inl ⟨String.ofList w, by simp [← String.toList_inj, hc], by simp [← String.toList_inj, hb]⟩
  · exact .inr ⟨String.ofList w, by simp [← String.toList_inj, ha], by simp [← String.toList_inj, hd]⟩

theorem Role.leading_trailing {r q : Role} {w v : String} (hw : w ≠ "") (hv : v ≠ "")
    (hbefore : q.affixes.1 = r.affixes.1 ++ w) (hafter : r.affixes.2 = v ++ q.affixes.2) :
    w ∈ leadingTexts ∧ v ∈ trailingTexts := by
  have hall : ∀ r ∈ all, ∀ q ∈ all,
      r.affixes.1.toList <+: q.affixes.1.toList → r.affixes.1 ≠ q.affixes.1 →
      q.affixes.2.toList <:+ r.affixes.2.toList → q.affixes.2 ≠ r.affixes.2 →
      r.affixes.1 = "" ∧ q.affixes.1 ∈ leadingTexts ∧ ∃ a ∈ trailingTexts, r.affixes.2 = a ++ q.affixes.2 := by
    decide
  have hlonger : r.affixes.1 ≠ q.affixes.1 := fun heq =>
    hw ((String.append_right_inj r.affixes.1).mp (by rw [← hbefore, String.append_empty, heq]))
  have hshorter : q.affixes.2 ≠ r.affixes.2 := fun heq =>
    hv ((String.append_left_inj q.affixes.2).mp (by rw [← hafter, String.empty_append, heq]))
  obtain ⟨hempty, hleading, a, ha, htrailing⟩ := hall r r.mem_all q q.mem_all
    ⟨w.toList, by rw [hbefore, String.toList_append]⟩ hlonger
    ⟨v.toList, by rw [hafter, String.toList_append]⟩ hshorter
  rw [hbefore, hempty, String.empty_append] at hleading
  rw [hafter] at htrailing
  exact ⟨hleading, (String.append_left_inj _).mp htrailing ▸ ha⟩

theorem interlocks_of_append_eq {e f w v : String} (hw : w ∈ leadingTexts) (hv : v ∈ trailingTexts)
    (h : w ++ f = e ++ v) : Interlocks e f := by
  rcases append_eq_append_cases h with ⟨x, rfl, rfl⟩ | ⟨x, rfl, rfl⟩
  · exact ⟨w, hw, v, hv, x, rfl, rfl⟩
  · -- the two texts would overlap, but the first letter of a trailing text is in no leading one
    have hall : ∀ v ∈ trailingTexts, ∀ w ∈ leadingTexts, v.toList.head?.all (· ∉ w.toList) := by decide
    have hx : x = "" := by
      cases hlist : x.toList with
      | nil => simpa using hlist
      | cons c rest => exact absurd (hall _ hv _ hw) (by simp [hlist])
    subst hx
    exact ⟨e, by simpa using hw, f, by simpa using hv, "", by simp, by simp⟩

theorem related_of_more_before {r q : Role} {e f w : String} (hne : e ≠ f)
    (hbefore : q.affixes.1 = r.affixes.1 ++ w) (h : e ++ r.affixes.2 = w ++ (f ++ q.affixes.2)) :
    Extends e f ∨ Extends f e ∨ Interlocks e f := by
  rw [← String.append_assoc] at h
  -- either the second name reaches up to the end of the first or beyond, or the first has all of it and more
  rcases append_eq_append_cases h with ⟨v, hmiddle, hafter⟩ | ⟨v, rfl, -⟩
  · by_cases hw : w = ""
    · have hv : v ≠ "" := by
        rintro rfl
        exact hne (by simpa [hw] using hmiddle.symm)
      exact .inr (.inl ⟨"", v, .inr hv, by simpa [hw] using hmiddle⟩)
    · by_cases hv : v = ""
      · exact .inl ⟨w, "", .inl hw, by simpa [hv] using hmiddle.symm⟩
      · obtain ⟨hleading, htrailing⟩ := Role.leading_trailing hw hv hbefore hafter
        exact .inr (.inr (interlocks_of_append_eq hleading htrailing hmiddle))
  · refine .inl ⟨w, v, ?_, rfl⟩
    by_contra hnone
    obtain ⟨rfl, rfl⟩ := (not_or.mp hnone).imp not_not.mp not_not.mp
    simp at hne

theorem related_of_identifier_eq {r q : Role} {e f : String} (hne : e ≠ f)
    (h : identifier r e = identifier q f) :
    (Extends e f ∨ Interlocks e f) ∨ Extends f e ∨ Interlocks f e := by
  rw [identifier, identifier, String.append_assoc, String.append_assoc] at h
  -- the roles change places where the first puts more before the name
  rcases append_eq_append_cases h with ⟨w, hbefore, h⟩ | ⟨w, hbefore, h⟩
  · rcases related_of_more_before hne hbefore h with h | h | h
    · exact .inl (.inl h)
    · exact .inr (.inl h)
    · exact .inl (.inr h)
  · rcases related_of_more_before hne.symm hbefore h with h | h | h
    · exact .inr (.inl h)
    · exact .inl (.inl h)
    · exact .inr (.inr h)

theorem Interlocks.exists_identifier_eq {e f : String} (h : Interlocks e f) :
    ∃ r q, r ≠ q ∧ identifier r e = identifier q f := by
  obtain ⟨before, hbefore, after, hafter, middle, rfl, rfl⟩ := h
  have hleading : ∀ b ∈ leadingTexts, ∃ q ∈ Role.all, q.affixes = (b, "Args") := by decide
  have htrailing : ∀ a ∈ trailingTexts, ∃ r ∈ Role.all, r.affixes = ("", a ++ "Args") := by decide
  obtain ⟨q, -, hq⟩ := hleading before hbefore
  obtain ⟨r, -, hr⟩ := htrailing after hafter
  refine ⟨r, q, ?_, by simp [identifier, hr, hq, String.append_assoc]⟩
  rintro rfl
  rw [hr] at hq
  obtain ⟨rfl, -⟩ := Prod.mk.inj hq
  exact absurd hbefore (by decide)

theorem exists_shared_of_collisions {entities : List String} (hn : entities.Nodup)
    (h : collisions entities [] ≠ []) :
    ∃ e ∈ entities, ∃ f ∈ entities, e ≠ f ∧ ∃ r q, identifier r e = identifier q f := by
  by_contra hnone
  refine h ((collisions_eq_nil_iff entities []).mpr ?_)
  rw [List.nil_append]
  -- no identifier is shared by two record types, and the roles of one never share one
  refine (nodup_derivedFrom hn).map_on fun d hd d' hd' heq => ?_
  obtain ⟨e, r⟩ := d
  obtain ⟨f, q⟩ := d'
  have he := ((mem_derivedFrom_iff _ _).mp hd).1
  have hf := ((mem_derivedFrom_iff _ _).mp hd').1
  by_cases hne : e = f
  · subst hne
    exact congrArg (Derived.mk e) (role_eq_of_identifier_eq heq)
  · exact absurd ⟨e, he, f, hf, hne, r, q, heq⟩ hnone

/-- Where the identifiers of different record types collide, one of the names extends another, or two of them
interlock. Names that interlock do collide. -/
theorem related_of_collisions (entities : List String) (hn : entities.Nodup) :
    (collisions entities [] ≠ [] → ∃ e ∈ entities, ∃ f ∈ entities, Extends e f ∨ Interlocks e f) ∧
      ((∃ e ∈ entities, ∃ f ∈ entities, Interlocks e f) → collisions entities [] ≠ []) := by
  constructor
  · intro h
    obtain ⟨e, he, f, hf, hne, r, q, heq⟩ := exists_shared_of_collisions hn h
    rcases related_of_identifier_eq hne heq with h | h
    · exact ⟨e, he, f, hf, h⟩
    · exact ⟨f, hf, e, he, h⟩
  · rintro ⟨e, he, f, hf, h⟩ hnone
    obtain ⟨r, q, hne, heq⟩ := h.exists_identifier_eq
    exact hne (identifier_inj ((collisions_eq_nil_iff entities []).mp hnone) he hf heq).1

/-- Creating users whose record type is called for one that is looked up, and looking up users that are called for
their creation, take arguments of one name; yet neither name extends the other. -/
theorem interlocked_collide_unextended :
    let entities := ["UserCreate", "FindOneUser"]
    entities.Nodup ∧ (∀ e ∈ entities, e ≠ "") ∧ collisions entities [] ≠ [] ∧
      ¬ ∃ e ∈ entities, ∃ f ∈ entities, Extends e f := by
  intro entities
  -- each name has a letter that the other has not
  have hapart : ∀ e ∈ entities, ∀ f ∈ entities, ¬ (f.toList ⊆ e.toList ∧ f ≠ e) := by decide
  refine ⟨by decide, by decide, by decide, ?_⟩
  rintro ⟨e, he, f, hf, h⟩
  exact hapart e he f hf h.subset

theorem bare_texts_interlock :
    let entities := ["Tag", "DeleteMany", "Aggregate"]
    entities.Nodup ∧ Interlocks "Aggregate" "DeleteMany" ∧ collisions entities [] ≠ [] ∧
      ∃ e ∈ entities, ∃ f ∈ entities, Extends e f ∨ Interlocks e f := by
  intro entities
  have hn : entities.Nodup := by decide
  have hinterlocks : Interlocks "Aggregate" "DeleteMany" :=
    ⟨"Aggregate", by decide, "DeleteMany", by decide, "", by simp, by simp⟩
  obtain ⟨hrelated, hcollide⟩ := related_of_collisions entities hn
  have hcollisions := hcollide ⟨"Aggregate", by decide, "DeleteMany", by decide, hinterlocks⟩
  exact ⟨hn, hinterlocks, hcollisions, hrelated hcollisions⟩

end TypedClient
