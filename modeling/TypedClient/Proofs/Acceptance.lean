import TypedClient.Proofs.Parts
import TypedClient.Schema.Form

set_option autoImplicit false

/-!
# Which documents are read

Plain data with the keys and kinds of values of a document is read exactly when it keeps the rules of the
format. The rules are asked at different depths and one after the other, so each sort of value says which of
them it asks, and the document puts them together.
-/

namespace TypedClient

open Reading

theorem exists_forall₂_iff {α β : Type} {R : α → β → Prop} (xs : List α) :
    (∃ ys, List.Forall₂ R xs ys) ↔ ∀ x ∈ xs, ∃ y, R x y := by
  induction xs with
  | nil => simp
  | cons x xs ih =>
    rw [List.forall_mem_cons, ← ih]
    constructor
    · rintro ⟨ys, h⟩
      cases h with
      | cons hx hxs => exact ⟨⟨_, hx⟩, _, hxs⟩
    · rintro ⟨⟨y, hy⟩, ys, hys⟩
      exact ⟨y :: ys, .cons hy hys⟩

/-! ## Values of a kind -/

namespace Data

variable {d : Data} {p : Data → Bool} {key : Key} {entries : List (Scalar × Data)}

theorem part?_map : (Data.map entries).part? key = value? entries key := (value?_eq entries key).symm

theorem has_iff : d.has key p = true ↔ ∃ v, d.part? key = some v ∧ p v = true := Option.any_eq_true _ _

theorem mayHave_iff : d.mayHave key p = true ↔ ∀ v, d.part? key = some v → p v = true := Option.all_eq_true _ _

theorem mayHave_of_has (h : d.has key p = true) : d.mayHave key p = true := by
  obtain ⟨v, hv, hp⟩ := has_iff.mp h
  rw [mayHave_iff]
  intro w hw
  cases hv.symm.trans hw
  exact hp

theorem exists_entries_of_isMap (h : d.isMap = true) : ∃ entries, d = .map entries := by
  cases d with
  | map entries => exact ⟨entries, rfl⟩
  | _ => cases h

theorem exists_entries_of_has (h : d.has key p = true) : ∃ entries, d = .map entries := by
  obtain ⟨v, hv, -⟩ := has_iff.mp h
  cases d with
  | map entries => exact ⟨entries, rfl⟩
  | _ => cases hv

theorem text?_eq_some_iff {t : Text} : d.text? = some t ↔ d = .text t := by
  unfold text?
  split <;> simp_all

theorem exists_text (h : d.isText = true) : ∃ t, d = .text t := by
  obtain ⟨t, ht⟩ := Option.isSome_iff_exists.mp h
  exact ⟨t, text?_eq_some_iff.mp ht⟩

theorem eq_text_of_bind {s : String} (h : d.text?.bind Text.string? = some s) : d = .text s := by
  obtain ⟨t, ht, hs⟩ := Option.bind_eq_some_iff.mp h
  exact text?_eq_some_iff.mp (Text.string?_eq_some_iff.mp hs ▸ ht)

theorem exists_items (h : d.isListOf p = true) : ∃ ds, d = .list ds ∧ ∀ x ∈ ds, p x = true := by
  cases d with
  | list ds => exact ⟨ds, rfl, List.all_eq_true.mp h⟩
  | _ => cases h

theorem forall_mem_itemsAt (h : d.mayHave key (isListOf p) = true) : ∀ x ∈ d.itemsAt key, p x = true := by
  intro x hx
  unfold itemsAt at hx
  split at hx
  · next ds hds => exact List.all_eq_true.mp (mayHave_iff.mp h _ hds) x hx
  · cases hx

end Data

/-! ## Reading values of a kind -/

namespace Reading

open Data (isName isKind isText isTextOrNull isListOf part?_map has_iff mayHave_iff exists_text exists_items
  eq_text_of_bind forall_mem_itemsAt)

variable {d : Data} {p : Data → Bool} {key : Key} {entries : List (Scalar × Data)}

theorem nonEmptyText_of_isName (h : d.isName = true) : ∃ s : String, d = .text s ∧ nonEmptyText d = .ok s := by
  obtain ⟨s, hs, hne⟩ := (Option.any_eq_true _ _).mp h
  obtain rfl := eq_text_of_bind hs
  exact ⟨s, rfl, (nonEmptyText_text_eq_ok_iff s s).mpr ⟨rfl, by simpa using hne⟩⟩

theorem kind_of_isKind (h : d.isKind = true) : ∃ k : Kind, d = .text k.label ∧ kind d = .ok k := by
  obtain ⟨k, hkind⟩ := Option.isSome_iff_exists.mp h
  obtain ⟨s, hs, hk⟩ := Option.bind_eq_some_iff.mp hkind
  obtain rfl := eq_text_of_bind hs
  obtain rfl : k.label = s := by simpa using List.find?_some hk
  exact ⟨k, rfl, kind_label k⟩

theorem bool_of_isBool (h : d.isBool = true) : ∃ b, bool d = .ok b := by
  unfold Data.isBool at h
  split at h
  · next b => exact ⟨b, rfl⟩
  · cases h

theorem text_of_isText (h : d.isText = true) : ∃ s, text d = .ok s := by
  obtain ⟨s, rfl⟩ := exists_text h
  exact ⟨s, rfl⟩

theorem text?_of_isTextOrNull (h : d.isTextOrNull = true) : ∃ o, orNull text d = .ok o ∧ o = d.text? := by
  unfold isTextOrNull at h
  split at h
  · exact ⟨none, rfl, rfl⟩
  · obtain ⟨s, rfl⟩ := exists_text h
    exact ⟨some s, rfl, rfl⟩

section Parts

variable {α : Type} {read : Data → Reading α}

theorem exists_required (h : (Data.map entries).has key p = true) (hread : ∀ v, p v = true → ∃ a, read v = .ok a) :
    ∃ a, required key read entries = .ok a := by
  obtain ⟨v, hv, hp⟩ := has_iff.mp h
  obtain ⟨a, ha⟩ := hread v hp
  exact ⟨a, (required_eq_ok_iff _ _ _ _).mpr ⟨v, part?_map.symm.trans hv, ha⟩⟩

theorem exists_optional (default : α) (h : (Data.map entries).mayHave key p = true)
    (hread : ∀ v, p v = true → ∃ a, read v = .ok a) : ∃ a, optional key default read entries = .ok a := by
  rw [mayHave_iff, part?_map] at h
  cases hv : value? entries key with
  | none => exact ⟨default, (optional_eq_ok_iff _ _ _ _ _).mpr (.inl ⟨hv, rfl⟩)⟩
  | some v =>
    obtain ⟨a, ha⟩ := hread v (h v hv)
    exact ⟨a, (optional_eq_ok_iff _ _ _ _ _).mpr (.inr ⟨v, hv, ha⟩)⟩

theorem required_name (h : (Data.map entries).has key isName = true) :
    ∃ name : String, required key nonEmptyText entries = .ok name ∧ (Data.map entries).textAt key = name := by
  obtain ⟨v, hv, hp⟩ := has_iff.mp h
  obtain ⟨s, rfl, hs⟩ := nonEmptyText_of_isName hp
  rw [Data.textAt, hv]
  exact ⟨s, (required_eq_ok_iff _ _ _ _).mpr ⟨_, part?_map.symm.trans hv, hs⟩, rfl⟩

theorem required_kind (h : (Data.map entries).has key isKind = true) :
    ∃ k : Kind, required key kind entries = .ok k ∧ (Data.map entries).textAt key = k.label := by
  obtain ⟨v, hv, hp⟩ := has_iff.mp h
  obtain ⟨k, rfl, hk⟩ := kind_of_isKind hp
  rw [Data.textAt, hv]
  exact ⟨k, (required_eq_ok_iff _ _ _ _).mpr ⟨_, part?_map.symm.trans hv, hk⟩, rfl⟩

theorem optional_text? (h : (Data.map entries).mayHave key isTextOrNull = true) :
    ∃ o, optional key none (orNull text) entries = .ok o ∧ (Data.map entries).has key isText = o.isSome := by
  rw [mayHave_iff] at h
  cases hv : (Data.map entries).part? key with
  | none =>
    refine ⟨none, (optional_eq_ok_iff _ _ _ _ _).mpr (.inl ⟨part?_map.symm.trans hv, rfl⟩), ?_⟩
    simp [Data.has, hv]
  | some v =>
    obtain ⟨o, ho, rfl⟩ := text?_of_isTextOrNull (h v hv)
    refine ⟨v.text?, (optional_eq_ok_iff _ _ _ _ _).mpr (.inr ⟨v, part?_map.symm.trans hv, ho⟩), ?_⟩
    rw [Data.has, hv]
    rfl

theorem optional_list_eq_ok_iff (h : (Data.map entries).mayHave key (isListOf p) = true) (as : List α) :
    optional key [] (list read) entries = .ok as ↔
      List.Forall₂ (fun v a => read v = .ok a) ((Data.map entries).itemsAt key) as := by
  rw [optional_eq_ok_iff, Data.itemsAt, ← part?_map]
  cases hv : (Data.map entries).part? key with
  | none => simp [eq_comm]
  | some v =>
    obtain ⟨ds, rfl, -⟩ := exists_items (mayHave_iff.mp h v hv)
    simp [list_eq_ok_iff]

theorem required_list_eq_ok_iff (h : (Data.map entries).has key (isListOf p) = true) (as : List α) :
    required key (nonEmptyList read) entries = .ok as ↔
      List.Forall₂ (fun v a => read v = .ok a) ((Data.map entries).itemsAt key) as ∧
        (Data.map entries).itemsAt key ≠ [] := by
  obtain ⟨v, hv, hp⟩ := has_iff.mp h
  obtain ⟨ds, rfl, -⟩ := exists_items hp
  rw [required_eq_ok_iff, Data.itemsAt, ← part?_map, hv]
  simp only [Option.some.injEq, ↓existsAndEq, true_and, nonEmptyList_eq_ok_iff, list_eq_ok_iff]
  refine and_congr_right fun hall => not_congr ?_
  rw [← List.length_eq_zero_iff, ← hall.length_eq, List.length_eq_zero_iff]

theorem exists_list (h : d.isListOf p = true) (hread : ∀ v, p v = true → ∃ a, read v = .ok a) :
    ∃ as, list read d = .ok as := by
  obtain ⟨ds, rfl, hds⟩ := exists_items h
  simp only [list_eq_ok_iff, exists_forall₂_iff]
  exact fun v hv => hread v (hds v hv)

theorem exists_optional_list_iff (h : (Data.map entries).mayHave key (isListOf p) = true) {rules : Data → Prop}
    (hread : ∀ v, p v = true → ((∃ a, read v = .ok a) ↔ rules v)) :
    (∃ as, optional key [] (list read) entries = .ok as) ↔ ∀ v ∈ (Data.map entries).itemsAt key, rules v := by
  simp only [optional_list_eq_ok_iff h, exists_forall₂_iff]
  exact forall₂_congr fun v hv => hread v (forall_mem_itemsAt h v hv)

theorem map_eq_of_read {β : Type} {f : Data → β} {g : α → β} {ds : List Data} {as : List α}
    (hp : ∀ v ∈ ds, p v = true) (hread : List.Forall₂ (fun v a => read v = .ok a) ds as)
    (h : ∀ v a, p v = true → read v = .ok a → f v = g a) : ds.map f = as.map g := by
  induction hread with
  | nil => rfl
  | cons ha _ ih =>
    obtain ⟨hv, hrest⟩ := List.forall_mem_cons.mp hp
    rw [List.map_cons, List.map_cons, h _ _ hv ha, ih hrest]

theorem forall_iff_of_read {rules : Data → Prop} {q : α → Prop} {ds : List Data} {as : List α}
    (hp : ∀ v ∈ ds, p v = true) (hread : List.Forall₂ (fun v a => read v = .ok a) ds as)
    (h : ∀ v a, p v = true → read v = .ok a → (rules v ↔ q a)) : (∀ v ∈ ds, rules v) ↔ ∀ a ∈ as, q a := by
  induction hread with
  | nil => simp
  | cons ha _ ih =>
    obtain ⟨hv, hrest⟩ := List.forall_mem_cons.mp hp
    rw [List.forall_mem_cons, List.forall_mem_cons, h _ _ hv ha, ih hrest]

theorem optional_inner_eq_ok_iff {default : α} (hdefault : read (.map []) = .ok default) (a : α) :
    optional key default read entries = .ok a ↔ read ((Data.map entries).inner key) = .ok a := by
  rw [optional_eq_ok_iff, Data.inner, ← part?_map]
  cases (Data.map entries).part? key with
  | none => simp [hdefault]
  | some v => simp

theorem inner_of_mayHave (h : d.mayHave key p = true) (hempty : p (.map []) = true) : p (d.inner key) = true := by
  rw [Data.inner]
  cases hv : d.part? key with
  | none => exact hempty
  | some v => exact mayHave_iff.mp h v hv

end Parts

end Reading

open Data (exists_entries_of_has exists_entries_of_isMap forall_mem_itemsAt mayHave_of_has isText isListOf part?_map
  has_iff mayHave_iff)

variable {d : Data}

/-! ## Record types and enumerations -/

namespace Enumeration

theorem plainValue_of_typedValue (h : typedValue d = true) : plainValue d = some (.text d.valueText) := by
  rcases Bool.or_eq_true_iff.mp h with htext | hname
  · obtain ⟨s, rfl⟩ := Data.exists_text htext
    rfl
  · obtain ⟨entries, rfl⟩ := exists_entries_of_has hname
    obtain ⟨v, hv, hp⟩ := has_iff.mp hname
    obtain ⟨s, rfl⟩ := Data.exists_text hp
    have hget : Data.get? entries "name" = some (.text s) := by
      simpa [Data.part?, Key.ident, Key.plain] using hv
    rw [plainValue, hget, Data.valueText, Data.textAt, hv]
    rfl

theorem readValues_list (ds : List Data) (h : ∀ v ∈ ds, typedValue v = true) (values : List Text) :
    readValues (.list ds) = .ok values ↔
      ds.map Data.valueText = values ∧ ds ≠ [] ∧ (ds.map Data.valueText).Nodup := by
  have hplain : ds.mapM plainValue = some (ds.map fun v => .text v.valueText) := by
    induction ds with
    | nil => rfl
    | cons v rest ih =>
      obtain ⟨hv, hrest⟩ := List.forall_mem_cons.mp h
      simp [plainValue_of_typedValue hv, ih hrest]
  have hread : list text (.list (ds.map fun v => .text v.valueText)) = .ok (ds.map Data.valueText) := by
    rw [list_eq_ok_iff, List.forall₂_map_left_iff, List.forall₂_map_right_iff, List.forall₂_same]
    exact fun _ _ => rfl
  rw [readValues, plainValues, hplain, Option.map_some]
  simp only [guarded_eq_ok_iff, nonEmptyList_eq_ok_iff, repeatBreach?_eq_none_iff, hread, Reading.ok.injEq]
  constructor
  · rintro ⟨⟨rfl, hne⟩, hnodup⟩
    exact ⟨rfl, by simpa using hne, hnodup⟩
  · rintro ⟨rfl, hne, hnodup⟩
    exact ⟨⟨rfl, by simpa using hne⟩, hnodup⟩

theorem exists_read_iff (h : typed d = true) :
    (∃ e, read d = .ok e) ↔ d.itemsAt .values ≠ [] ∧ ((d.itemsAt .values).map Data.valueText).Nodup := by
  obtain ⟨hname, hvalues⟩ := Bool.and_eq_true_iff.mp h
  obtain ⟨entries, rfl⟩ := exists_entries_of_has hname
  obtain ⟨v, hv, hp⟩ := has_iff.mp hvalues
  obtain ⟨ds, rfl, htyped⟩ := Data.exists_items hp
  have hitems : (Data.map entries).itemsAt .values = ds := by rw [Data.itemsAt, hv]
  have hread (values : List Text) : required .values readValues entries = .ok values ↔
      ds.map Data.valueText = values ∧ ds ≠ [] ∧ (ds.map Data.valueText).Nodup := by
    rw [← readValues_list ds htyped, required_eq_ok_iff, ← part?_map, hv]
    simp
  obtain ⟨name, hname, -⟩ := required_name hname
  simp only [read_eq_ok_iff, hname, hitems, hread, Reading.ok.injEq]
  constructor
  · rintro ⟨e, -, -, hrules⟩
    exact hrules
  · intro hrules
    exact ⟨⟨_, _⟩, rfl, rfl, hrules⟩

end Enumeration

namespace Field

theorem breach?_eq_none_iff (f : Field) : f.breach? = none ↔ (f.relationName.isSome = true → f.kind = .object) := by
  simp [breach?]

theorem parts_of_read (h : typed d = true) {f : Field} (hf : read d = .ok f) :
    d.textAt .ident = f.name ∧ d.textAt .type = f.type ∧ d.textAt .kind = f.kind.label := by
  simp only [typed, Bool.and_eq_true] at h
  obtain ⟨⟨⟨⟨⟨⟨⟨⟨hname, hkind⟩, htype⟩, -⟩, -⟩, -⟩, -⟩, -⟩, -⟩ := h
  obtain ⟨entries, rfl⟩ := exists_entries_of_has hname
  obtain ⟨⟨hf₁, hf₂, hf₃, -⟩, -⟩ := (read_eq_ok_iff _ _).mp hf
  obtain ⟨k, hk, hlabel⟩ := required_kind hkind
  obtain ⟨name, hn, hident⟩ := required_name hname
  obtain ⟨type, ht, htyped⟩ := required_name htype
  rw [hn, Reading.ok.injEq] at hf₁
  rw [ht, Reading.ok.injEq] at hf₃
  rw [hk, Reading.ok.injEq] at hf₂
  exact ⟨hf₁ ▸ hident, hf₃ ▸ htyped, hf₂ ▸ hlabel⟩

theorem label_eq_object_iff (k : Kind) : (k.label : Text) = "object" ↔ k = .object := by
  cases k <;> decide

theorem exists_read_iff (h : typed d = true) :
    (∃ f, read d = .ok f) ↔ (d.has .relationName isText = true → d.textAt .kind = "object") := by
  simp only [typed, Bool.and_eq_true] at h
  obtain ⟨⟨⟨⟨⟨⟨⟨⟨hname, hkind⟩, htype⟩, hlist⟩, hrequired⟩, hunique⟩, hid⟩, hrelation⟩, hdocumentation⟩ := h
  obtain ⟨entries, rfl⟩ := exists_entries_of_has hname
  obtain ⟨k, hk, hlabel⟩ := required_kind hkind
  obtain ⟨relation, hr, hrelated⟩ := optional_text? hrelation
  rw [hrelated, hlabel, label_eq_object_iff]
  constructor
  · rintro ⟨f, hf⟩ hsome
    obtain ⟨⟨-, hf₂, -, -, -, -, -, hf₈, -⟩, hrule⟩ := (read_eq_ok_iff _ _).mp hf
    cases hk.symm.trans hf₂
    cases hr.symm.trans hf₈
    exact (breach?_eq_none_iff f).mp hrule hsome
  · intro hrule
    obtain ⟨isList, hlist⟩ := exists_optional false hlist fun _ => bool_of_isBool
    obtain ⟨isRequired, hrequired⟩ := exists_optional true hrequired fun _ => bool_of_isBool
    obtain ⟨isUnique, hunique⟩ := exists_optional false hunique fun _ => bool_of_isBool
    obtain ⟨isId, hid⟩ := exists_optional false hid fun _ => bool_of_isBool
    obtain ⟨documentation, hdocumentation, -⟩ := optional_text? hdocumentation
    obtain ⟨name, hname, -⟩ := required_name hname
    obtain ⟨type, htype, -⟩ := required_name htype
    exact ⟨⟨name, k, type, isList, isRequired, isUnique, isId, relation, documentation⟩, (read_eq_ok_iff _ _).mpr
      ⟨⟨hname, hk, htype, hlist, hrequired, hunique, hid, hr, hdocumentation⟩,
        (breach?_eq_none_iff _).mpr hrule⟩⟩

end Field

namespace Entity

theorem unknownIn_eq_nil_iff (e : Entity) (group : List Text) :
    e.unknownIn group = [] ↔ ∀ name ∈ group, name ∈ (e.fields.map (·.name)).map Text.ofString := by
  simp [unknownIn, List.filter_eq_nil_iff]

theorem breach?_eq_none_iff (e : Entity) :
    e.breach? = none ↔ (e.fields.map (·.name)).Nodup ∧
      ∀ group ∈ e.idFields :: e.uniqueFields, ∀ name ∈ group, name ∈ (e.fields.map (·.name)).map Text.ofString := by
  rw [breach?, Option.or_eq_none_iff, repeatBreach?_eq_none_iff, List.findSome?_eq_none_iff]
  refine and_congr_right fun _ => forall₂_congr fun group _ => ?_
  rw [← unknownIn_eq_nil_iff]
  split
  · next h => simp [h]
  · next h => simpa using h

theorem filterMap_text?_of_read {ds : List Data} {ts : List Text} (h : ∀ v ∈ ds, isText v = true)
    (hread : List.Forall₂ (fun v t => text v = .ok t) ds ts) : ds.filterMap Data.text? = ts := by
  induction hread with
  | nil => rfl
  | @cons v t _ _ ht _ ih =>
    obtain ⟨hv, hrest⟩ := List.forall_mem_cons.mp h
    obtain ⟨_, rfl⟩ := Data.exists_text hv
    cases ht
    exact congrArg (t :: ·) (ih hrest)

theorem typed_of_mem_fields (h : typed d = true) : ∀ v ∈ d.fields, Field.typed v = true := by
  simp only [typed, Bool.and_eq_true] at h
  exact forall_mem_itemsAt (mayHave_of_has h.1.1.1.2)

theorem fieldNames_of_read (h : typed d = true) {fs : List Field}
    (hread : List.Forall₂ (fun v f => Field.read v = .ok f) d.fields fs) :
    d.fieldNames = (fs.map (·.name)).map Text.ofString := by
  rw [List.map_map]
  exact map_eq_of_read (typed_of_mem_fields h) hread fun _ _ hv hf => (Field.parts_of_read hv hf).1

section Parts

variable {entries : List (Scalar × Data)} {e : Entity}

theorem keyGroups_of_read (h : typed (.map entries) = true)
    (hid : optional .idFields [] (list text) entries = .ok e.idFields)
    (hunique : optional .uniqueFields [] (list (list text)) entries = .ok e.uniqueFields) :
    (Data.map entries).keyGroups = e.idFields :: e.uniqueFields := by
  simp only [typed, Bool.and_eq_true] at h
  obtain ⟨⟨-, hids⟩, huniques⟩ := h.1
  rw [optional_list_eq_ok_iff hids] at hid
  rw [optional_list_eq_ok_iff huniques] at hunique
  have htexts : ((Data.map entries).itemsAt .uniqueFields).map Data.texts = e.uniqueFields.map id := by
    refine map_eq_of_read (forall_mem_itemsAt huniques) hunique fun v ss hv hss => ?_
    obtain ⟨vs, rfl, hvs⟩ := Data.exists_items hv
    exact filterMap_text?_of_read hvs ((list_eq_ok_iff _ _ _).mp hss)
  rw [Data.keyGroups, filterMap_text?_of_read (forall_mem_itemsAt hids) hid, htexts, List.map_id]

theorem read_iff_of_typed (h : typed (.map entries) = true) :
    Entity.read (.map entries) = .ok e ↔
      ((Data.map entries).textAt .ident = e.name ∧
        List.Forall₂ (fun v f => Field.read v = .ok f) (Data.map entries).fields e.fields ∧
        optional .idFields [] (list text) entries = .ok e.idFields ∧
        optional .uniqueFields [] (list (list text)) entries = .ok e.uniqueFields ∧
        optional .documentation none (orNull text) entries = .ok e.documentation) ∧
      (Data.map entries).fields ≠ [] ∧ (Data.map entries).fieldNames.Nodup ∧
        ∀ group ∈ (Data.map entries).keyGroups, ∀ name ∈ group, name ∈ (Data.map entries).fieldNames := by
  have hparts := h
  simp only [typed, Bool.and_eq_true] at hparts
  obtain ⟨⟨⟨⟨hname, hfields⟩, -⟩, -⟩, -⟩ := hparts
  obtain ⟨name, hname, hident⟩ := required_name hname
  rw [read_eq_ok_iff, hname, hident, required_list_eq_ok_iff hfields, Reading.ok.injEq, Text.ofString_inj,
    breach?_eq_none_iff]
  constructor
  · rintro ⟨⟨hn, ⟨hf, hne⟩, hid, hunique, hdocumentation⟩, hrule⟩
    rw [fieldNames_of_read h hf, keyGroups_of_read h hid hunique, List.nodup_map_iff Text.ofString_injective]
    exact ⟨⟨hn, hf, hid, hunique, hdocumentation⟩, hne, hrule⟩
  · rintro ⟨⟨hn, hf, hid, hunique, hdocumentation⟩, hne, hrule⟩
    rw [fieldNames_of_read h hf, keyGroups_of_read h hid hunique,
      List.nodup_map_iff Text.ofString_injective] at hrule
    exact ⟨⟨hn, ⟨hf, hne⟩, hid, hunique, hdocumentation⟩, hrule⟩

end Parts

theorem exists_read_iff (h : typed d = true) :
    (∃ e, read d = .ok e) ↔
      (∀ f ∈ d.fields, f.has .relationName isText = true → f.textAt .kind = "object") ∧
        d.fields ≠ [] ∧ d.fieldNames.Nodup ∧ ∀ group ∈ d.keyGroups, ∀ name ∈ group, name ∈ d.fieldNames := by
  have hrelations : (∃ fs, List.Forall₂ (fun v f => Field.read v = .ok f) d.fields fs) ↔
      ∀ f ∈ d.fields, f.has .relationName isText = true → f.textAt .kind = "object" := by
    rw [exists_forall₂_iff]
    exact forall₂_congr fun f hf => Field.exists_read_iff (typed_of_mem_fields h f hf)
  have hparts := h
  simp only [typed, Bool.and_eq_true] at hparts
  obtain ⟨⟨⟨⟨hname, -⟩, hid⟩, hunique⟩, hdocumentation⟩ := hparts
  obtain ⟨entries, rfl⟩ := exists_entries_of_has hname
  rw [← hrelations]
  constructor
  · rintro ⟨e, he⟩
    obtain ⟨⟨-, hfields, -⟩, hrule⟩ := (read_iff_of_typed h).mp he
    exact ⟨⟨e.fields, hfields⟩, hrule⟩
  · rintro ⟨⟨fields, hfields⟩, hrule⟩
    obtain ⟨ids, hid⟩ := exists_optional [] hid fun v hv => exists_list hv fun _ => text_of_isText
    obtain ⟨uniques, hunique⟩ := exists_optional [] hunique fun v hv =>
      exists_list hv fun w hw => exists_list hw fun _ => text_of_isText
    obtain ⟨documentation, hdocumentation, -⟩ := optional_text? hdocumentation
    obtain ⟨name, -, hident⟩ := required_name hname
    let e : Entity := ⟨name, fields, ids, uniques, documentation⟩
    exact ⟨e, (read_iff_of_typed h).mpr ⟨⟨hident, hfields, hid, hunique, hdocumentation⟩, hrule⟩⟩

end Entity

theorem Datamodel.exists_read_iff (h : typed d = true) :
    (∃ m, Datamodel.read d = .ok m) ↔
      (∀ e ∈ d.itemsAt .models, ∃ x, Entity.read e = .ok x) ∧
        ∀ e ∈ d.itemsAt .enums, ∃ x, Enumeration.read e = .ok x := by
  simp only [typed, Bool.and_eq_true] at h
  obtain ⟨⟨hmap, hentities⟩, henums⟩ := h
  obtain ⟨entries, rfl⟩ := exists_entries_of_isMap hmap
  rw [← exists_optional_list_iff hentities fun _ _ => Iff.rfl, ← exists_optional_list_iff henums fun _ _ => Iff.rfl]
  simp only [Datamodel.read_eq_ok_iff]
  constructor
  · rintro ⟨m, he, hn⟩
    exact ⟨⟨_, he⟩, _, hn⟩
  · rintro ⟨⟨entities, he⟩, enums, hn⟩
    exact ⟨⟨entities, enums⟩, he, hn⟩

/-! ## Arguments and the types of the queries -/

theorem Candidate.exists_read (h : typed d = true) : ∃ c, Candidate.read d = .ok c := by
  simp only [typed, Bool.and_eq_true] at h
  obtain ⟨⟨⟨⟨htype, hkind⟩, hlist⟩, hrequired⟩, hnullable⟩ := h
  obtain ⟨entries, rfl⟩ := exists_entries_of_has htype
  obtain ⟨kind, hkind⟩ := exists_optional .scalar hkind fun v hv => (kind_of_isKind hv).imp fun _ => And.right
  obtain ⟨isList, hlist⟩ := exists_optional false hlist fun _ => bool_of_isBool
  obtain ⟨isRequired, hrequired⟩ := exists_optional false hrequired fun _ => bool_of_isBool
  obtain ⟨isNullable, hnullable⟩ := exists_optional false hnullable fun _ => bool_of_isBool
  obtain ⟨type, htype, -⟩ := required_name htype
  let c : Candidate := ⟨type, kind, isList, isRequired, isNullable⟩
  exact ⟨c, (Candidate.read_eq_ok_iff _ _).mpr ⟨htype, hkind, hlist, hrequired, hnullable⟩⟩

namespace Argument

theorem exists_readCandidates_iff (h : (Candidate.typed d || d.isListOf Candidate.typed) = true) :
    (∃ c, readCandidates d = .ok c) ↔ d ≠ .list [] := by
  simp only [Prod.exists, readCandidates_eq_ok_iff]
  rcases Bool.or_eq_true_iff.mp h with hsingle | hlist
  · obtain ⟨c, hc⟩ := Candidate.exists_read hsingle
    obtain ⟨entries, rfl, -⟩ := object_eq_ok hc
    refine iff_of_true ⟨c, [], ?_⟩ (by simp)
    exact (list_eq_ok_iff _ _ _).mpr (.cons hc .nil)
  · obtain ⟨ds, rfl, hds⟩ := Data.exists_items hlist
    obtain ⟨cs, hcs⟩ := exists_list hlist fun _ => Candidate.exists_read
    have hlength := ((list_eq_ok_iff _ _ _).mp hcs).length_eq
    constructor
    · rintro ⟨first, others, hread⟩ hnil
      cases hnil
      cases (list_eq_ok_iff _ _ _).mp hread
    · intro hne
      cases cs with
      | nil => exact absurd (congrArg Data.list (List.length_eq_zero_iff.mp hlength)) hne
      | cons first others => exact ⟨first, others, hcs⟩

theorem exists_read_iff (h : typed d = true) :
    (∃ a, Argument.read d = .ok a) ↔ d.part? .inputType ≠ some (.list []) := by
  simp only [typed, Bool.and_eq_true] at h
  obtain ⟨⟨hname, hcandidates⟩, hcomment⟩ := h
  obtain ⟨entries, rfl⟩ := exists_entries_of_has hname
  obtain ⟨v, hv, hp⟩ := has_iff.mp hcandidates
  obtain ⟨comment, hcomment, -⟩ := optional_text? hcomment
  rw [hv, ne_eq, Option.some.injEq, ← ne_eq, ← exists_readCandidates_iff hp]
  simp only [Argument.read_eq_ok_iff, required_eq_ok_iff .inputType, ← part?_map, hv]
  constructor
  · rintro ⟨a, -, ⟨w, hw, hread⟩, -⟩
    cases hw
    exact ⟨_, hread⟩
  · rintro ⟨⟨first, others⟩, hread⟩
    obtain ⟨name, hname, -⟩ := required_name hname
    exact ⟨⟨name, first, others, comment⟩, hname, ⟨v, rfl, hread⟩, hcomment⟩

end Argument

theorem Target.exists_read (h : typed d = true) : ∃ t, Target.read d = .ok t := by
  simp only [typed, Bool.and_eq_true] at h
  obtain ⟨⟨⟨htype, hkind⟩, hlist⟩, hrequired⟩ := h
  obtain ⟨entries, rfl⟩ := exists_entries_of_has htype
  obtain ⟨kind, hkind⟩ := exists_optional .scalar hkind fun v hv => (kind_of_isKind hv).imp fun _ => And.right
  obtain ⟨isList, hlist⟩ := exists_optional false hlist fun _ => bool_of_isBool
  obtain ⟨isRequired, hrequired⟩ := exists_optional true hrequired fun _ => bool_of_isBool
  obtain ⟨type, htype, -⟩ := required_name htype
  let t : Target := ⟨type, kind, isList, isRequired⟩
  exact ⟨t, (Target.read_eq_ok_iff _ _).mpr ⟨htype, hkind, hlist, hrequired⟩⟩

theorem OutputField.exists_read_iff (h : typed d = true) :
    (∃ f, OutputField.read d = .ok f) ↔ ∀ a ∈ d.itemsAt .args, a.part? .inputType ≠ some (.list []) := by
  simp only [typed, Bool.and_eq_true] at h
  obtain ⟨⟨hname, htarget⟩, hargs⟩ := h
  obtain ⟨entries, rfl⟩ := exists_entries_of_has hname
  obtain ⟨target, htarget⟩ := exists_required htarget fun _ => Target.exists_read
  rw [← exists_optional_list_iff hargs fun _ => Argument.exists_read_iff]
  obtain ⟨name, hname, -⟩ := required_name hname
  simp only [OutputField.read_eq_ok_iff, hname]
  constructor
  · rintro ⟨f, -, -, hread⟩
    exact ⟨_, hread⟩
  · rintro ⟨args, hread⟩
    exact ⟨⟨_, target, args⟩, rfl, htarget, hread⟩

theorem InputType.exists_read_iff (h : typed d = true) :
    (∃ t, InputType.read d = .ok t) ↔ ∀ a ∈ d.fields, a.part? .inputType ≠ some (.list []) := by
  obtain ⟨hname, hfields⟩ := Bool.and_eq_true_iff.mp h
  obtain ⟨entries, rfl⟩ := exists_entries_of_has hname
  rw [Data.fields, ← exists_optional_list_iff hfields fun _ => Argument.exists_read_iff]
  obtain ⟨name, hname, -⟩ := required_name hname
  simp only [InputType.read_eq_ok_iff, hname]
  constructor
  · rintro ⟨t, -, hread⟩
    exact ⟨_, hread⟩
  · rintro ⟨fields, hread⟩
    exact ⟨⟨_, fields⟩, rfl, hread⟩

theorem OutputType.exists_read_iff (h : typed d = true) :
    (∃ t, OutputType.read d = .ok t) ↔
      ∀ f ∈ d.fields, ∀ a ∈ f.itemsAt .args, a.part? .inputType ≠ some (.list []) := by
  obtain ⟨hname, hfields⟩ := Bool.and_eq_true_iff.mp h
  obtain ⟨entries, rfl⟩ := exists_entries_of_has hname
  rw [Data.fields, ← exists_optional_list_iff hfields fun _ => OutputField.exists_read_iff]
  obtain ⟨name, hname, -⟩ := required_name hname
  simp only [OutputType.read_eq_ok_iff, hname]
  constructor
  · rintro ⟨t, -, hread⟩
    exact ⟨_, hread⟩
  · rintro ⟨fields, hread⟩
    exact ⟨⟨_, fields⟩, rfl, hread⟩

theorem QuerySchema.exists_read_iff (h : typed d = true) :
    (∃ q, QuerySchema.read d = .ok q) ↔
      (∀ t ∈ d.itemsAt .inputTypes, ∀ a ∈ t.fields, a.part? .inputType ≠ some (.list [])) ∧
        (∀ t ∈ d.itemsAt .outputTypes, ∀ f ∈ t.fields, ∀ a ∈ f.itemsAt .args,
          a.part? .inputType ≠ some (.list [])) ∧
        ∀ e ∈ d.itemsAt .enums, ∃ x, Enumeration.read e = .ok x := by
  simp only [typed, Bool.and_eq_true] at h
  obtain ⟨⟨⟨hmap, hinputs⟩, houtputs⟩, henums⟩ := h
  obtain ⟨entries, rfl⟩ := exists_entries_of_isMap hmap
  rw [← exists_optional_list_iff hinputs fun _ => InputType.exists_read_iff,
    ← exists_optional_list_iff houtputs fun _ => OutputType.exists_read_iff,
    ← exists_optional_list_iff henums fun _ _ => Iff.rfl]
  simp only [QuerySchema.read_eq_ok_iff]
  constructor
  · rintro ⟨q, hi, ho, he⟩
    exact ⟨⟨_, hi⟩, ⟨_, ho⟩, _, he⟩
  · rintro ⟨⟨inputs, hi⟩, ⟨outputs, ho⟩, enums, he⟩
    exact ⟨⟨inputs, outputs, enums⟩, hi, ho, he⟩

/-! ## Mappings and documents -/

namespace Mapping

theorem entity_of_read (h : typed d = true) {m : Mapping} (hm : read d = .ok m) : d.textAt .model = m.entity := by
  simp only [typed, Bool.and_eq_true] at h
  obtain ⟨entries, rfl⟩ := exists_entries_of_has h.1.1
  obtain ⟨hentity, -⟩ := (read_eq_ok_iff _ _).mp hm
  obtain ⟨name, hname, hmodel⟩ := required_name h.1.1
  rw [hname, Reading.ok.injEq] at hentity
  rw [hmodel, hentity]

theorem exists_read (h : typed d = true) : ∃ m, read d = .ok m := by
  simp only [typed, Bool.and_eq_true] at h
  obtain ⟨⟨hmodel, hplural⟩, hserved⟩ := h
  obtain ⟨entries, rfl⟩ := exists_entries_of_has hmodel
  have hall (a : Action) : ∃ o, optional (.ofAction a) none (orNull text) entries = .ok o := by
    obtain ⟨o, ho, -⟩ := optional_text? (List.all_eq_true.mp hserved a (Action.mem_all a))
    exact ⟨o, ho⟩
  choose served hserved using hall
  obtain ⟨model, hmodel, -⟩ := required_name hmodel
  obtain ⟨plural, hplural, -⟩ := required_name hplural
  let m : Mapping := ⟨model, plural, served .findOne,
    served .findMany, served .create, served .update, served .updateMany,
    served .upsert, served .delete, served .deleteMany, served .aggregate⟩
  refine ⟨m, (read_eq_ok_iff _ _).mpr ⟨hmodel, hplural, fun a => ?_⟩⟩
  rw [hserved a]
  cases a <;> rfl

end Mapping

theorem Entity.parts_of_read (h : typed d = true) {e : Entity} (he : read d = .ok e) :
    d.textAt .ident = e.name ∧ List.Forall₂ (fun v f => Field.read v = .ok f) d.fields e.fields := by
  obtain ⟨entries, rfl, -⟩ := object_eq_ok he
  obtain ⟨⟨hname, hfields, -⟩, -⟩ := (read_iff_of_typed h).mp he
  exact ⟨hname, hfields⟩

theorem Entity.relations_iff_of_read (h : typed d = true) {e : Entity} (he : read d = .ok e) (names : List String) :
    (∀ f ∈ d.fields, f.textAt .kind = "object" → f.textAt .type ∈ names.map Text.ofString) ↔
      ∀ f ∈ e.relations, f.type ∈ names := by
  have hfields := (parts_of_read h he).2
  rw [Entity.relations, List.forall_mem_filter]
  refine forall_iff_of_read (typed_of_mem_fields h) hfields fun v f hv hf => ?_
  obtain ⟨-, htype, hkind⟩ := Field.parts_of_read hv hf
  rw [htype, hkind, Field.label_eq_object_iff, List.mem_map_of_injective Text.ofString_injective, Field.isRelation,
    beq_iff_eq]

namespace Document

theorem wellFormed_iff_of_read (h : typed d = true) {doc : Document}
    (hdatamodel : Datamodel.read (d.inner .datamodel) = .ok doc.datamodel)
    (hmappings : List.Forall₂ (fun v m => Mapping.read v = .ok m) (d.itemsAt .mappings) doc.mappings) :
    doc.WellFormed ↔ d.entityNames.Nodup ∧
      (∀ e ∈ d.entities, ∀ f ∈ e.fields, f.textAt .kind = "object" → f.textAt .type ∈ d.entityNames) ∧
      ∀ m ∈ d.itemsAt .mappings, m.textAt .model ∈ d.entityNames := by
  simp only [typed, Bool.and_eq_true] at h
  obtain ⟨⟨⟨-, hd⟩, -⟩, hm⟩ := h
  have htyped := inner_of_mayHave hd rfl
  simp only [Datamodel.typed, Bool.and_eq_true] at htyped
  have hall : ∀ e ∈ d.entities, Entity.typed e = true := forall_mem_itemsAt htyped.1.2
  have hentities : List.Forall₂ (fun v e => Entity.read v = .ok e) d.entities doc.entities := by
    obtain ⟨entries, hentries, -⟩ := object_eq_ok hdatamodel
    rw [hentries] at hdatamodel htyped
    have hread := ((Datamodel.read_eq_ok_iff _ _).mp hdatamodel).1
    rw [optional_list_eq_ok_iff htyped.1.2] at hread
    rwa [Data.entities, hentries]
  have hnames : d.entityNames = doc.entityNames.map Text.ofString := by
    rw [Document.entityNames, List.map_map]
    exact map_eq_of_read hall hentities fun v e hv he => (Entity.parts_of_read hv he).1
  have hrelations := forall_iff_of_read hall hentities fun v e hv he =>
    Entity.relations_iff_of_read hv he doc.entityNames
  have hmapped : (∀ m ∈ d.itemsAt .mappings, m.textAt .model ∈ doc.entityNames.map Text.ofString) ↔
      ∀ m ∈ doc.mappings, m.entity ∈ doc.entityNames :=
    forall_iff_of_read (forall_mem_itemsAt hm) hmappings fun v m hv hread => by
      rw [Mapping.entity_of_read hv hread, List.mem_map_of_injective Text.ofString_injective]
  rw [hnames, hrelations, hmapped, List.nodup_map_iff Text.ofString_injective]
  constructor
  · rintro ⟨hn, hr, hm⟩
    exact ⟨hn, hr, hm⟩
  · rintro ⟨hn, hr, hm⟩
    exact ⟨hn, hr, hm⟩

theorem exists_read_iff (h : typed d = true) :
    (∃ doc, Document.read d = .ok doc) ↔
      (∃ m, Datamodel.read (d.inner .datamodel) = .ok m) ∧ (∃ q, QuerySchema.read (d.inner .querySchema) = .ok q) ∧
      d.entityNames.Nodup ∧
      (∀ e ∈ d.entities, ∀ f ∈ e.fields, f.textAt .kind = "object" → f.textAt .type ∈ d.entityNames) ∧
      ∀ m ∈ d.itemsAt .mappings, m.textAt .model ∈ d.entityNames := by
  have hparts := h
  simp only [typed, Bool.and_eq_true] at hparts
  obtain ⟨⟨⟨hmap, -⟩, -⟩, hm⟩ := hparts
  obtain ⟨entries, rfl⟩ := exists_entries_of_isMap hmap
  have hdatamodel : Datamodel.read (.map []) = .ok {} := rfl
  have hschema : QuerySchema.read (.map []) = .ok {} := rfl
  simp only [Document.read_eq_ok_iff, optional_inner_eq_ok_iff hdatamodel, optional_inner_eq_ok_iff hschema,
    optional_list_eq_ok_iff hm]
  constructor
  · rintro ⟨doc, ⟨hdatamodel, hschema, hmappings⟩, hrule⟩
    exact ⟨⟨_, hdatamodel⟩, ⟨_, hschema⟩, (wellFormed_iff_of_read h hdatamodel hmappings).mp hrule⟩
  · rintro ⟨⟨m, hdatamodel⟩, ⟨q, hschema⟩, hrule⟩
    obtain ⟨ms, hmappings⟩ := (exists_forall₂_iff _).mpr fun v hv => Mapping.exists_read (forall_mem_itemsAt hm v hv)
    exact ⟨⟨m, q, ms⟩, ⟨hdatamodel, hschema, hmappings⟩, (wellFormed_iff_of_read h hdatamodel hmappings).mpr hrule⟩

theorem enums_exist_read_iff (hall : ∀ e ∈ d.enums, Enumeration.typed e = true) :
    (∀ e ∈ d.enums, ∃ x, Enumeration.read e = .ok x) ↔
      (∀ e ∈ d.enums, e.itemsAt .values ≠ []) ∧ ∀ e ∈ d.enums, ((e.itemsAt .values).map Data.valueText).Nodup := by
  rw [← forall₂_and]
  exact forall₂_congr fun e he => Enumeration.exists_read_iff (hall e he)

theorem forall_mem_arguments_iff (p : Data → Prop) :
    (∀ a ∈ d.arguments, p a) ↔
      (∀ t ∈ (d.inner .querySchema).itemsAt .inputTypes, ∀ a ∈ t.fields, p a) ∧
        ∀ t ∈ (d.inner .querySchema).itemsAt .outputTypes, ∀ f ∈ t.fields, ∀ a ∈ f.itemsAt .args, p a := by
  simp only [Data.arguments, List.forall_mem_append, List.forall_mem_flatMap]

/-- Data with the keys and kinds of values of a document is read exactly when it keeps the rules of the format. -/
theorem exists_read_iff_lawful (raw : Data) (h : typed raw = true) :
    (∃ d, Document.read raw = .ok d) ↔ Lawful raw := by
  have hparts := h
  simp only [typed, Bool.and_eq_true] at hparts
  obtain ⟨⟨⟨-, hdatamodel⟩, hschema⟩, -⟩ := hparts
  have hd := inner_of_mayHave hdatamodel rfl
  have hq := inner_of_mayHave hschema rfl
  have hdparts := hd
  have hqparts := hq
  simp only [Datamodel.typed, Bool.and_eq_true] at hdparts
  simp only [QuerySchema.typed, Bool.and_eq_true] at hqparts
  have htyped : ∀ e ∈ raw.enums, Enumeration.typed e = true :=
    List.forall_mem_append.mpr ⟨forall_mem_itemsAt hdparts.2, forall_mem_itemsAt hqparts.2⟩
  -- The enumerations of the two halves keep the same rules, and so do the arguments of both sorts of types.
  have henums := enums_exist_read_iff htyped
  rw [Data.enums, List.forall_mem_append] at henums
  have harguments := forall_mem_arguments_iff (d := raw) fun a => a.part? .inputType ≠ some (.list [])
  have hentities : (∀ e ∈ raw.entities, ∃ x, Entity.read e = .ok x) ↔ _ :=
    forall₂_congr fun e he => Entity.exists_read_iff (forall_mem_itemsAt hdparts.1.2 e he)
  rw [Data.entities] at hentities
  rw [exists_read_iff h, Datamodel.exists_read_iff hd, QuerySchema.exists_read_iff hq, hentities]
  constructor
  · rintro ⟨⟨he, hn⟩, ⟨hi, ho, hm⟩, hnames, hrelations, hmappings⟩
    obtain ⟨hvalues, htexts⟩ := henums.mp ⟨hn, hm⟩
    exact ⟨hnames, fun e h => (he e h).2.1, fun e h => (he e h).2.2.1, fun e h => (he e h).1,
      fun e h => (he e h).2.2.2, hvalues, htexts, harguments.mpr ⟨hi, ho⟩, hrelations, hmappings⟩
  · intro hl
    obtain ⟨hn, hm⟩ := henums.mpr ⟨hl.values, hl.valueTexts⟩
    obtain ⟨hi, ho⟩ := harguments.mp hl.candidates
    exact ⟨⟨fun e h => ⟨hl.relationNames e h, hl.fields e h, hl.fieldNames e h, hl.keyGroups e h⟩, hn⟩,
      ⟨hi, ho, hm⟩, hl.entityNames, hl.relations, hl.mappings⟩

def authored (type : String) : Data :=
  .map [(.text "datamodel", .map [(.text "models", .list [
    .map [(.text "name", .text "User"), (.text "fields", .list [
      .map [(.text "name", .text "id"), (.text "kind", .text "scalar"), (.text "type", .text "Int")]])],
    .map [(.text "name", .text "Post"), (.text "fields", .list [
      .map [(.text "name", .text "id"), (.text "kind", .text "scalar"), (.text "type", .text "Int")],
      .map [(.text "name", .text "author"), (.text "kind", .text "object"), (.text "type", .text type),
        (.text "relation_name", .text "PostToUser")]]),
      (.text "id_fields", .list [.text "id", .text "author"])]])])]

theorem authored_read_iff : Lawful (authored "User") ∧ ¬ ∃ d, Document.read (authored "Author") = .ok d := by
  constructor
  · have hread : (Document.read (authored "User")).toOption.isSome = true := by decide +kernel
    obtain ⟨d, hd⟩ := Option.isSome_iff_exists.mp hread
    exact (exists_read_iff_lawful (authored "User") (by decide +kernel)).mp
      ⟨d, (toOption_eq_some_iff _ _).mp hd⟩
  · rw [exists_read_iff_lawful (authored "Author") (by decide +kernel)]
    intro hl
    have hrelations := hl.relations
    revert hrelations
    decide +kernel

end Document

end TypedClient
