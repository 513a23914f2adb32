import TypedClient.Proofs.Sameness

set_option autoImplicit false

namespace TypedClient.TypeExpr

mutual

/-- What a type is written with: itself and the types in it, in order, where a union stands for its members. -/
def constituents : TypeExpr → List TypeExpr
  | .ref name => [.ref name]
  | .literal value => [.literal value]
  | .null => [.null]
  | .never => [.never]
  | .list item => .list item :: constituents item
  | .generic name args => .generic name args :: constituentsAll args
  | .union members => constituentsAll members
  | .object members name => .object members name :: constituentsMembers members

def constituentsAll : List TypeExpr → List TypeExpr
  | [] => []
  | t :: rest => constituents t ++ constituentsAll rest

def constituentsMembers : List Member → List TypeExpr
  | [] => []
  | ⟨_, type, _, _⟩ :: rest => constituents type ++ constituentsMembers rest

end

def isNull : TypeExpr → Bool
  | .null => true
  | _ => false

def refName? : TypeExpr → Option String
  | .ref name => some name
  | _ => none

def applies (generic : String) : TypeExpr → Bool
  | .generic name _ => name == generic
  | _ => false

theorem constituentsAll_eq (ts : List TypeExpr) : constituentsAll ts = ts.flatMap constituents := by
  induction ts with
  | nil => rfl
  | cons t ts ih => rw [constituentsAll, ih, List.flatMap_cons]

theorem constituents_ofParts (ts : List TypeExpr) : (ofParts ts).constituents = ts.flatMap constituents := by
  unfold ofParts
  split
  · rw [List.flatMap_singleton]
  · rw [constituents, constituentsAll_eq]

theorem constituentsMembers_eq (ms : List Member) : constituentsMembers ms = ms.flatMap (·.type.constituents) := by
  induction ms with
  | nil => rfl
  | cons m ms ih =>
    cases m
    rw [constituentsMembers, ih, List.flatMap_cons]

theorem constituents_subset_all {t : TypeExpr} {ts : List TypeExpr} (ht : t ∈ ts) :
    t.constituents ⊆ constituentsAll ts := by
  intro u hu
  rw [constituentsAll_eq]
  exact List.mem_flatMap_of_mem ht hu

theorem constituents_subset_members {m : Member} {ms : List Member} (hm : m ∈ ms) :
    m.type.constituents ⊆ constituentsMembers ms := by
  intro u hu
  rw [constituentsMembers_eq]
  exact List.mem_flatMap_of_mem hm hu

theorem reduce_congr {f g : Text → Text} (t : TypeExpr) (h : ∀ v, .literal v ∈ t.constituents → f v = g v) :
    t.reduce f = t.reduce g := by
  induction t with
  | ref name => rw [reduce, reduce]
  | literal value => rw [reduce, reduce, h value (by rw [constituents]; exact List.mem_cons_self)]
  | null => rw [reduce, reduce]
  | never => rw [reduce, reduce]
  | list item ih =>
    rw [constituents] at h
    rw [reduce, reduce, ih fun v hv => h v (List.mem_cons_of_mem _ hv)]
  | generic name args ih =>
    rw [constituents] at h
    have hargs : ∀ t ∈ args, t.reduce f = t.reduce g := fun t ht =>
      ih t ht fun v hv => h v (List.mem_cons_of_mem _ (constituents_subset_all ht hv))
    rw [reduce, reduce, reduceAll_eq, reduceAll_eq, List.map_congr_left hargs]
  | union members ih =>
    rw [constituents] at h
    have hmembers : ∀ t ∈ members, t.reduce f = t.reduce g := fun t ht =>
      ih t ht fun v hv => h v (constituents_subset_all ht hv)
    rw [reduce, reduce, reduceAll_eq, reduceAll_eq, List.map_congr_left hmembers]
  | object members name ih =>
    rw [constituents] at h
    have hmembers : ∀ m ∈ members, { m with type := m.type.reduce f } = { m with type := m.type.reduce g } := by
      intro m hm
      rw [ih m hm fun v hv => h v (List.mem_cons_of_mem _ (constituents_subset_members hm hv))]
    rw [reduce, reduce, reduceMembers_eq, reduceMembers_eq, List.map_congr_left hmembers]

end TypedClient.TypeExpr
