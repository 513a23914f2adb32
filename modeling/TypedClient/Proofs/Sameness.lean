import TypedClient.TypeExpr.Basic

set_option autoImplicit false

namespace TypedClient.TypeExpr

@[elab_as_elim, induction_eliminator]
theorem induction {motive : TypeExpr → Prop}
    (ref : ∀ name, motive (.ref name))
    (literal : ∀ value, motive (.literal value))
    (null : motive .null)
    (never : motive .never)
    (list : ∀ item, motive item → motive (.list item))
    (generic : ∀ name args, (∀ t ∈ args, motive t) → motive (.generic name args))
    (union : ∀ members, (∀ t ∈ members, motive t) → motive (.union members))
    (object : ∀ members name, (∀ m ∈ members, motive m.type) → motive (.object members name))
    (t : TypeExpr) : motive t :=
  @TypeExpr.rec motive (fun m => motive m.type) (fun ts => ∀ t ∈ ts, motive t) (fun ms => ∀ m ∈ ms, motive m.type)
    ref literal null never list generic union object (fun _ _ _ _ h => h)
    (List.forall_mem_nil _) (fun _ _ h hs => List.forall_mem_cons.mpr ⟨h, hs⟩)
    (List.forall_mem_nil _) (fun _ _ h hs => List.forall_mem_cons.mpr ⟨h, hs⟩) t

mutual

/-- A type without the names of objects, with the values of literals rewritten. -/
def reduce (f : Text → Text) : TypeExpr → TypeExpr
  | .ref name => .ref name
  | .literal value => .literal (f value)
  | .null => .null
  | .never => .never
  | .list item => .list (reduce f item)
  | .generic name args => .generic name (reduceAll f args)
  | .union members => .union (reduceAll f members)
  | .object members _ => .object (reduceMembers f members) none

def reduceAll (f : Text → Text) : List TypeExpr → List TypeExpr
  | [] => []
  | t :: rest => reduce f t :: reduceAll f rest

def reduceMembers (f : Text → Text) : List Member → List Member
  | [] => []
  | ⟨name, type, isOptional, comment⟩ :: rest =>
    ⟨name, reduce f type, isOptional, comment⟩ :: reduceMembers f rest

end

theorem reduceAll_eq (f : Text → Text) (ts : List TypeExpr) : reduceAll f ts = ts.map (reduce f) := by
  induction ts with
  | nil => rfl
  | cons t ts ih => rw [reduceAll, ih, List.map_cons]

theorem reduceMembers_eq (f : Text → Text) (ms : List Member) :
    reduceMembers f ms = ms.map fun m => { m with type := m.type.reduce f } := by
  induction ms with
  | nil => rfl
  | cons m ms ih =>
    cases m
    rw [reduceMembers, ih, List.map_cons]

theorem sameAll_iff {ss : List TypeExpr} (h : ∀ s ∈ ss, ∀ t, same s t = true ↔ s.reduce id = t.reduce id)
    (ts : List TypeExpr) : sameAll ss ts = true ↔ reduceAll id ss = reduceAll id ts := by
  induction ss generalizing ts with
  | nil => cases ts <;> simp [sameAll, reduceAll]
  | cons s ss ih =>
    obtain ⟨hs, hss⟩ := List.forall_mem_cons.mp h
    cases ts with
    | nil => simp [sameAll, reduceAll]
    | cons t ts => simp [sameAll, reduceAll, hs, ih hss]

theorem sameMembers_iff {ms : List Member}
    (h : ∀ m ∈ ms, ∀ t, same m.type t = true ↔ m.type.reduce id = t.reduce id) (ns : List Member) :
    sameMembers ms ns = true ↔ reduceMembers id ms = reduceMembers id ns := by
  induction ms generalizing ns with
  | nil => rcases ns with _ | ⟨⟨n, t, o, c⟩, ns⟩ <;> simp [sameMembers, reduceMembers]
  | cons m ms ih =>
    obtain ⟨hm, hms⟩ := List.forall_mem_cons.mp h
    cases m
    rcases ns with _ | ⟨⟨n, t, o, c⟩, ns⟩
    · simp [sameMembers, reduceMembers]
    · simp [sameMembers, reduceMembers, hm, ih hms, and_assoc]

theorem same_iff (s t : TypeExpr) : same s t = true ↔ s.reduce id = t.reduce id := by
  induction s generalizing t with
  | ref name => cases t <;> simp [same, reduce]
  | literal value => cases t <;> simp [same, reduce]
  | null => cases t <;> simp [same, reduce]
  | never => cases t <;> simp [same, reduce]
  | list item ih => cases t <;> simp [same, reduce, ih]
  | generic name args ih => cases t <;> simp [same, reduce, sameAll_iff ih]
  | union members ih => cases t <;> simp [same, reduce, sameAll_iff ih]
  | object members name ih => cases t <;> simp [same, reduce, sameMembers_iff ih]

theorem same_comm (s t : TypeExpr) : same s t = same t s := by
  rw [Bool.eq_iff_iff, same_iff, same_iff, eq_comm]

end TypedClient.TypeExpr
