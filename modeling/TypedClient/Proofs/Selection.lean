import TypedClient.Proofs.Traversal
import TypedClient.Selector

set_option autoImplicit false

/-!
# How selectors are evaluated

The evaluation of a selector goes through nested lists of entries. Here it is put into one equation for each
of the three forms that a selector may have: it uses both ways to select, neither, or one of them. In the
last case the payload is put together from one member for every key that is asked for, and the type of such
a member needs the payload of a selector that stands further inside.
-/

namespace TypedClient

def Projection.other : Projection → Projection
  | .select => .include
  | .include => .select

namespace Selector

def under? (s : Selector) (way : Projection) : Option Selector := s.entries.lookup way.key

def asked (s : Selector) : List (String × Selector) := s.entries.filter (·.2.isTrue)

def IsConflict (s : Selector) : Prop := ∀ way, (s.under? way).isSome

theorem has_eq_isSome (entries : List (String × Selector)) (way : Projection) :
    has entries way = ((node entries).under? way).isSome := by
  change has entries way = (entries.lookup way.key).isSome
  induction entries with
  | nil => rfl
  | cons entry rest ih =>
    obtain ⟨key, s⟩ := entry
    rw [has, List.any_cons, List.lookup_cons, Bool.beq_comm]
    cases way.key == key with
    | true => rfl
    | false => exact ih

theorem sizeOf_entries_le (s : Selector) : sizeOf s.entries ≤ sizeOf s := by
  cases s <;> simp [entries]

theorem sizeOf_lt_of_mem_entries {s : Selector} {entry : String × Selector} (h : entry ∈ s.entries) :
    sizeOf entry.2 < sizeOf s := by
  have hentry : sizeOf entry < sizeOf s.entries := List.sizeOf_lt_of_mem h
  have hpair : sizeOf entry = 1 + sizeOf entry.1 + sizeOf entry.2 := rfl
  have hle := s.sizeOf_entries_le
  omega

theorem mem_entries_of_under? {s child : Selector} {way : Projection} (h : s.under? way = some child) :
    (way.key, child) ∈ s.entries := by
  rw [under?, List.lookup_eq_some_iff] at h
  obtain ⟨before, after, hentries, -⟩ := h
  rw [hentries]
  simp

theorem asked_induction {P : Selector → Prop}
    (step : ∀ s, (∀ way child, s.under? way = some child → ∀ entry ∈ child.asked, P entry.2) → P s)
    (s : Selector) : P s := by
  refine step s fun way child hchild entry hentry => ?_
  have hinner := sizeOf_lt_of_mem_entries (List.mem_of_mem_filter hentry)
  have houter : sizeOf child < sizeOf s := sizeOf_lt_of_mem_entries (mem_entries_of_under? hchild)
  exact asked_induction step entry.2
termination_by sizeOf s
decreasing_by exact Nat.lt_trans hinner houter

theorem ways_cases (s : Selector) :
    s.IsConflict ∨ (∀ way, s.under? way = none) ∨
      ∃ way child, s.under? way = some child ∧ s.under? way.other = none := by
  cases hs : s.under? .select with
  | none =>
    cases hi : s.under? .include with
    | none => exact .inr (.inl fun way => by cases way <;> assumption)
    | some child => exact .inr (.inr ⟨.include, child, hi, hs⟩)
  | some child =>
    cases hi : s.under? .include with
    | none => exact .inr (.inr ⟨.select, child, hs, hi⟩)
    | some _ => exact .inl fun way => by cases way <;> simp [hs, hi]

end Selector

namespace Document

variable {d : Document} {name : String} {p : Projected} {s child : Selector} {way : Projection}

def projected? (d : Document) (name : String) : Option Projected := do
  let e ← d.entity? name
  let t ← d.outputType? e.name
  return ⟨e, t.payload⟩

def keyType (d : Document) (p : Projected) (way : Projection) (key : String) (s : Selector) :
    Except SelectorFault TypeExpr :=
  match p.plain? way key, p.payload.relation? key with
  | some type, _ => .ok type
  | none, none => .ok .never
  | none, some b => (d.resolve b.target s).map b.wrap

def keyMember (d : Document) (p : Projected) (way : Projection) (entry : String × Selector) :
    Except SelectorFault Member :=
  (d.keyType p way entry.1 entry.2).map fun type => ⟨entry.1, type, false, none⟩

theorem projected?_eq_some_iff :
    d.projected? name = some p ↔
      ∃ t, d.entity? name = some p.entity ∧ d.outputType? name = some t ∧ p.payload = t.payload := by
  have hname : ∀ e, d.entity? name = some e → e.name = name := fun e he => by
    simpa using List.find?_some he
  constructor
  · intro h
    obtain ⟨e, he, h⟩ := Option.bind_eq_some_iff.mp h
    obtain ⟨t, ht, h⟩ := Option.bind_eq_some_iff.mp h
    cases h
    exact ⟨t, he, hname e he ▸ ht, rfl⟩
  · rintro ⟨t, he, ht, hpayload⟩
    obtain ⟨e, payload⟩ := p
    dsimp only at he hpayload
    subst hpayload
    simp [projected?, he, hname e he, ht]

theorem keyType_of_plain {key : String} {type : TypeExpr} (h : p.plain? way key = some type) :
    d.keyType p way key s = .ok type := by
  rw [keyType, h]

theorem keyType_of_unknown {key : String} (h : p.plain? way key = none)
    (hrel : p.payload.relation? key = none) : d.keyType p way key s = .ok .never := by
  rw [keyType, h, hrel]

theorem keyType_of_relation {key : String} {b : Branch} (h : p.plain? way key = none)
    (hrel : p.payload.relation? key = some b) :
    d.keyType p way key s = (d.resolve b.target s).map b.wrap := by
  rw [keyType, h, hrel]

theorem resolveKeys_eq (entries : List (String × Selector)) :
    d.resolveKeys p way entries = (entries.filter (·.2.isTrue)).mapM (d.keyMember p way) := by
  induction entries with
  | nil => rfl
  | cons entry rest ih =>
    obtain ⟨key, s⟩ := entry
    rw [List.filter_cons, resolveKeys, ih]
    by_cases hs : s.isTrue
    · rw [if_pos hs, if_pos hs, List.mapM_cons, keyMember]
      cases hplain : p.plain? way key with
      | some type =>
        rw [keyType_of_plain hplain]
        rfl
      | none =>
        cases hrel : p.payload.relation? key with
        | none =>
          rw [keyType_of_unknown hplain hrel]
          rfl
        | some b =>
          rw [keyType_of_relation hplain hrel]
          dsimp only
          cases d.resolve b.target s <;> rfl
    · rw [if_neg hs, if_neg hs]

theorem resolveMap_eq : d.resolveMap p way s = s.asked.mapM (d.keyMember p way) := by
  cases s with
  | node entries => exact resolveKeys_eq entries
  | _ => rfl

theorem resolveUnder_eq {entries : List (String × Selector)}
    (h : (Selector.node entries).under? way = some child) :
    d.resolveUnder p way entries =
      (child.asked.mapM (d.keyMember p way)).map (p.assemble way) := by
  change entries.lookup way.key = some child at h
  induction entries with
  | nil => cases h
  | cons entry rest ih =>
    obtain ⟨key, s⟩ := entry
    rw [List.lookup_cons, Bool.beq_comm] at h
    rw [resolveUnder]
    cases hkey : key == way.key with
    | true =>
      rw [hkey] at h
      cases h
      rw [if_pos rfl, resolveMap_eq]
      cases child.asked.mapM (d.keyMember p way) <;> rfl
    | false =>
      rw [hkey] at h
      rw [if_neg (by simp)]
      exact ih h

theorem entity?_of_projected? (h : d.projected? name = some p) : d.entity? name = some p.entity := by
  obtain ⟨t, he, -, -⟩ := projected?_eq_some_iff.mp h
  exact he

theorem lookup_entity {e : Entity} (he : d.entity? name = some e) :
    SelectorFault.lookup (d.entity name) = .ok e := by
  rw [entity, he]
  rfl

theorem projected_entity (h : d.projected? name = some p) : d.projected p.entity = .ok p := by
  obtain ⟨t, he, ht, hpayload⟩ := projected?_eq_some_iff.mp h
  have hname : p.entity.name = name := by simpa using List.find?_some he
  rw [projected, outputType, hname, ht]
  cases p
  cases hpayload
  rfl

theorem resolve_node {e : Entity} (he : d.entity? name = some e) (entries : List (String × Selector)) :
    d.resolve name (.node entries) =
      match (Selector.node entries).under? .select, (Selector.node entries).under? .include with
      | none, none => .ok e.valueShape
      | some _, none => d.projected e >>= fun p => d.resolveUnder p .select entries
      | none, some _ => d.projected e >>= fun p => d.resolveUnder p .include entries
      | some _, some _ => .error (.conflict name) := by
  rw [resolve, lookup_entity he, Selector.has_eq_isSome, Selector.has_eq_isSome]
  cases (Selector.node entries).under? .select <;> cases (Selector.node entries).under? .include <;> rfl

theorem resolve_of_unselective (hp : d.projected? name = some p) (h : ∀ way, s.under? way = none) :
    d.resolve name s = .ok (match s with
      | .undefined => .never
      | _ => p.entity.valueShape) := by
  have he := entity?_of_projected? hp
  cases s with
  | node entries => rw [resolve_node he, h, h]
  | undefined =>
    rw [resolve, lookup_entity he]
    rfl
  | _ =>
    rw [resolve.eq_def]
    dsimp only
    rw [lookup_entity he]
    rfl

theorem resolve_of_isConflict (hp : d.projected? name = some p) (h : s.IsConflict) :
    d.resolve name s = .error (.conflict name) := by
  obtain ⟨selected, hselect⟩ := Option.isSome_iff_exists.mp (h .select)
  obtain ⟨included, hinclude⟩ := Option.isSome_iff_exists.mp (h .include)
  cases s with
  | node entries => rw [resolve_node (entity?_of_projected? hp), hselect, hinclude]
  | _ => cases hselect

theorem resolve_of_under? (hp : d.projected? name = some p) (h : s.under? way = some child)
    (hother : s.under? way.other = none) :
    d.resolve name s = (child.asked.mapM (d.keyMember p way)).map (p.assemble way) := by
  cases s with
  | node entries =>
    rw [← resolveUnder_eq h, resolve_node (entity?_of_projected? hp)]
    cases way
    · have hinclude : (Selector.node entries).under? .include = none := hother
      simp only [h, hinclude, projected_entity hp]
      rfl
    · have hselect : (Selector.node entries).under? .select = none := hother
      simp only [h, hselect, projected_entity hp]
      rfl
  | _ => cases h

/-! ## What a payload tells of its selector -/

theorem resolve_of_unknown (h : d.entity? name = none) (s : Selector) :
    d.resolve name s = .error (.inconsistent (.unknownEntity name)) := by
  have hlookup : SelectorFault.lookup (d.entity name) = .error (.inconsistent (.unknownEntity name)) := by
    rw [entity, h]
    rfl
  rw [resolve.eq_def]
  split <;> rw [hlookup] <;> rfl

theorem exists_entity_of_resolve {type : TypeExpr} (h : d.resolve name s = .ok type) :
    ∃ e, d.entity? name = some e := by
  refine Option.ne_none_iff_exists'.mp fun hnone => ?_
  rw [resolve_of_unknown hnone] at h
  cases h

theorem exists_projected_of_resolve {type : TypeExpr} (h : d.resolve name s = .ok type)
    (hchild : s.under? way = some child) : ∃ p, d.projected? name = some p := by
  obtain ⟨e, he⟩ := exists_entity_of_resolve h
  cases ht : d.outputType? e.name with
  | some t => exact ⟨⟨e, t.payload⟩, by simp [projected?, he, ht]⟩
  | none =>
    have hp : d.projected e = .error (.inconsistent (.noOutputType e.name)) := by
      rw [projected, outputType, ht]
      rfl
    cases s with
    | node entries =>
      rw [resolve_node he, hp] at h
      split at h
      case h_1 hselect hinclude => cases way <;> simp_all
      all_goals cases h
    | _ => cases hchild

theorem other_of_resolve (hp : d.projected? name = some p) {type : TypeExpr} (h : d.resolve name s = .ok type)
    (hchild : s.under? way = some child) : s.under? way.other = none := by
  rcases s.ways_cases with hconflict | hnone | ⟨w, _, hw, hother⟩
  · rw [resolve_of_isConflict hp hconflict] at h
    cases h
  · simp [hnone] at hchild
  · cases way <;> cases w <;> simp_all [Projection.other]

theorem map_name_of_keyMembers {found : List Member} (h : child.asked.mapM (d.keyMember p way) = .ok found) :
    found.map (·.name) = child.trueKeys :=
  map_eq_of_forall₂ ((mapM_eq_ok_iff _ _ _).mp h) fun entry m hm => by
    obtain ⟨type, -, rfl⟩ := (except_map_eq_ok_iff _ _ _).mp hm
    rfl

theorem exists_found_of_resolve {type : TypeExpr} (h : d.resolve name s = .ok type)
    (hchild : s.under? way = some child) :
    ∃ p found, d.projected? name = some p ∧ found.map (·.name) = child.trueKeys ∧
      type = p.assemble way found := by
  obtain ⟨p, hp⟩ := exists_projected_of_resolve h hchild
  rw [resolve_of_under? hp hchild (other_of_resolve hp h hchild), except_map_eq_ok_iff] at h
  obtain ⟨found, hfound, rfl⟩ := h
  exact ⟨p, found, hp, map_name_of_keyMembers hfound, rfl⟩

end Document

end TypedClient
