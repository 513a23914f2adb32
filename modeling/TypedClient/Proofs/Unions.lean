import TypedClient.Proofs.Distinct
import TypedClient.Proofs.Sameness

set_option autoImplicit false

namespace TypedClient.TypeExpr

def isUnion : TypeExpr → Bool
  | .union _ => true
  | _ => false

def IsFlat (t : TypeExpr) : Prop := ∀ u ∈ t.parts, u.isUnion = false

theorem parts_of_not_isUnion {t : TypeExpr} (h : t.isUnion = false) : t.parts = [t] := by
  cases t <;> first | rfl | cases h

theorem ofParts_of_ne {ts : List TypeExpr} (h : ∀ t, ts ≠ [t]) : ofParts ts = .union ts := by
  unfold ofParts
  split
  · next t => exact absurd rfl (h t)
  · rfl

theorem parts_ofParts {ts : List TypeExpr} (h : ∀ t ∈ ts, t.isUnion = false) : (ofParts ts).parts = ts := by
  by_cases hone : ∃ t, ts = [t]
  · obtain ⟨t, rfl⟩ := hone
    exact parts_of_not_isUnion (h t List.mem_cons_self)
  · rw [ofParts_of_ne fun t heq => hone ⟨t, heq⟩, parts]

theorem foldl_addNew_eq_loop (ts done : List TypeExpr) :
    ts.foldl addNew done = List.eraseDupsBy.loop same ts done.reverse := by
  induction ts generalizing done with
  | nil => rw [List.eraseDupsBy.loop, List.reverse_reverse, List.foldl_nil]
  | cons t ts ih =>
    have hseen : done.reverse.any (same t) = t.isIn done := by
      rw [List.any_reverse, isIn, funext (same_comm t)]
    rw [List.foldl_cons, ih, List.eraseDupsBy.loop, hseen, addNew]
    cases t.isIn done <;> simp

theorem foldl_addNew (ts : List TypeExpr) : ts.foldl addNew [] = ts.eraseDupsBy same :=
  foldl_addNew_eq_loop ts []

section

-- the equality of types has no decision procedure of its own
open Classical

theorem eraseDupsBy_same : ∀ ts : List TypeExpr, ts.eraseDupsBy same = uniqueBy (reduce id) ts
  | [] => rfl
  | t :: ts => by
    have hkeep : (fun u => decide (same u t = false)) = fun u : TypeExpr => decide (u.reduce id ≠ t.reduce id) := by
      funext u
      rw [decide_eq_decide, ne_eq, ← same_iff, Bool.not_eq_true]
    rw [List.eraseDupsBy_cons, eraseDupsBy_same (ts.filter fun u => decide (same u t = false)), hkeep, uniqueBy_cons]
    exact congrArg (t :: ·) (uniqueBy_filter (reduce id) (fun k => decide (k ≠ t.reduce id)) ts)
termination_by ts => ts.length
decreasing_by exact Nat.lt_succ_of_le (List.length_filter_le _ _)

theorem eraseDupsBy_append_eraseDupsBy (ts us vs : List TypeExpr) :
    (ts ++ (us.eraseDupsBy same ++ vs)).eraseDupsBy same = (ts ++ (us ++ vs)).eraseDupsBy same := by
  simp only [eraseDupsBy_same]
  exact uniqueBy_append_uniqueBy (reduce id) ts us vs

theorem eraseDupsBy_append_self (ts : List TypeExpr) : (ts ++ ts).eraseDupsBy same = ts.eraseDupsBy same := by
  simp only [eraseDupsBy_same]
  exact uniqueBy_append_self (reduce id) ts

theorem mem_of_mem_eraseDupsBy {ts : List TypeExpr} {t : TypeExpr} (h : t ∈ ts.eraseDupsBy same) : t ∈ ts := by
  rw [eraseDupsBy_same, mem_uniqueBy_iff] at h
  exact List.mem_of_find?_eq_some h

theorem pairwise_eraseDupsBy (ts : List TypeExpr) :
    (ts.eraseDupsBy same).Pairwise fun s t => same s t = false := by
  have hnodup := nodup_map_uniqueBy (reduce id) ts
  rw [eraseDupsBy_same]
  refine (List.pairwise_map.mp hnodup).imp fun {s t} hne => ?_
  rwa [← Bool.not_eq_true, same_iff]

end

theorem unionOf_eq (ts : List TypeExpr) : unionOf ts = ofParts ((ts.flatMap parts).eraseDupsBy same) := by
  rw [unionOf, foldl_addNew]

section Flat

variable {ts us : List TypeExpr}

theorem isUnion_of_mem_eraseDupsBy (h : ∀ t ∈ ts, t.IsFlat) :
    ∀ u ∈ (ts.flatMap parts).eraseDupsBy same, u.isUnion = false := by
  intro u hu
  obtain ⟨t, ht, hut⟩ := List.mem_flatMap.mp (mem_of_mem_eraseDupsBy hu)
  exact h t ht u hut

theorem parts_unionOf (h : ∀ t ∈ ts, t.IsFlat) : (unionOf ts).parts = (ts.flatMap parts).eraseDupsBy same := by
  rw [unionOf_eq, parts_ofParts (isUnion_of_mem_eraseDupsBy h)]

theorem isFlat_unionOf (h : ∀ t ∈ ts, t.IsFlat) : (unionOf ts).IsFlat := by
  rw [IsFlat, parts_unionOf h]
  exact isUnion_of_mem_eraseDupsBy h

theorem unionOf_ne_singleton (h : ∀ t ∈ ts, t.IsFlat) (t : TypeExpr) : unionOf ts ≠ .union [t] := by
  intro heq
  have hone : (ts.flatMap parts).eraseDupsBy same = [t] := by rw [← parts_unionOf h, heq, parts]
  have ht : t.isUnion = false := isUnion_of_mem_eraseDupsBy h t (hone ▸ List.mem_cons_self)
  rw [unionOf_eq, hone, ofParts] at heq
  rw [heq] at ht
  cases ht

theorem unionOf_append_unionOf (ts vs : List TypeExpr) (hus : ∀ t ∈ us, t.IsFlat) :
    unionOf (ts ++ unionOf us :: vs) = unionOf (ts ++ us ++ vs) := by
  rw [unionOf_eq (ts ++ unionOf us :: vs), unionOf_eq (ts ++ us ++ vs), List.append_assoc ts us vs]
  simp only [List.flatMap_append, List.flatMap_cons, parts_unionOf hus]
  rw [eraseDupsBy_append_eraseDupsBy]

theorem unionOf_append_self (ts : List TypeExpr) : unionOf (ts ++ ts) = unionOf ts := by
  rw [unionOf_eq, List.flatMap_append, eraseDupsBy_append_self, ← unionOf_eq]

theorem unionOf_unionOf_unionOf (hts : ∀ t ∈ ts, t.IsFlat) (hus : ∀ t ∈ us, t.IsFlat) :
    unionOf [unionOf ts, unionOf us] = unionOf (ts ++ us) := by
  have hfirst : unionOf [unionOf ts, unionOf us] = unionOf (ts ++ [unionOf us]) :=
    unionOf_append_unionOf [] [unionOf us] hts
  rw [hfirst, unionOf_append_unionOf ts [] hus, List.append_nil]

end Flat

theorem unionOf_assoc {r s t : TypeExpr} (hr : r.IsFlat) (hs : s.IsFlat) (ht : t.IsFlat) :
    unionOf [unionOf [r, s], t] = unionOf [r, unionOf [s, t]] := by
  have hleft : unionOf [unionOf [r, s], t] = unionOf [r, s, t] := by
    refine unionOf_append_unionOf [] [t] ?_
    simp [hr, hs]
  have hright : unionOf [r, unionOf [s, t]] = unionOf [r, s, t] := by
    refine unionOf_append_unionOf [r] [] ?_
    simp [hs, ht]
  rw [hleft, hright]

theorem isFlat_null : IsFlat .null := by
  intro u hu
  rw [List.mem_singleton.mp hu]
  rfl

theorem orNull_orNull {t : TypeExpr} (ht : t.IsFlat) : t.orNull.orNull = t.orNull := by
  have hnull : unionOf [.null, .null] = .null := rfl
  rw [orNull, orNull, unionOf_assoc ht isFlat_null isFlat_null, hnull]

/-- The union of types that are no unions of unions holds no union and no two types that are the same, and is never a
union of one type; its parts are the first occurrences among the members of the given types. A union among the types
counts for its members. So making unions is associative and idempotent, and a type that may be null stays as it is
when it is made nullable again. -/
theorem unionOf_laws (xs ys zs : List TypeExpr) (hxs : ∀ t ∈ xs, t.IsFlat) (hys : ∀ t ∈ ys, t.IsFlat)
    (hzs : ∀ t ∈ zs, t.IsFlat) :
    (unionOf xs).IsFlat ∧
      (unionOf xs).parts.Pairwise (fun s t => same s t = false) ∧
      (∀ t, unionOf xs ≠ .union [t]) ∧
      (unionOf xs).parts = (xs.flatMap parts).eraseDupsBy same ∧
      unionOf (xs ++ unionOf ys :: zs) = unionOf (xs ++ ys ++ zs) ∧
      (∀ r ∈ xs, ∀ s ∈ ys, ∀ t ∈ zs, unionOf [unionOf [r, s], t] = unionOf [r, unionOf [s, t]]) ∧
      unionOf (xs ++ xs) = unionOf xs ∧ unionOf [unionOf xs, unionOf xs] = unionOf xs ∧
      ∀ t ∈ xs, t.orNull.orNull = t.orNull := by
  have hparts := parts_unionOf hxs
  refine ⟨isFlat_unionOf hxs, hparts ▸ pairwise_eraseDupsBy _, unionOf_ne_singleton hxs, hparts,
    unionOf_append_unionOf xs zs hys, fun r hr s hs t ht => unionOf_assoc (hxs r hr) (hys s hs) (hzs t ht),
    unionOf_append_self xs, ?_, fun t ht => orNull_orNull (hxs t ht)⟩
  rw [unionOf_unionOf_unionOf hxs hxs, unionOf_append_self]

/-- Objects for different record types, a union that holds one of them, and a type that occurs twice. -/
theorem unions_of_objects :
    let one := TypeExpr.object [⟨"id", .ref "number", false, none⟩] (some "User")
    let other := TypeExpr.object [⟨"id", .ref "number", false, none⟩] (some "Post")
    let xs := [one, .union [other, .null]]
    (∀ t ∈ xs, t.IsFlat) ∧ (unionOf xs).parts = [one, .null] ∧
      unionOf (xs ++ unionOf [.ref "T", .null] :: [.list one]) = unionOf (xs ++ [.ref "T", .null] ++ [.list one]) := by
  intro one other xs
  have hxs : ∀ t ∈ xs, t.IsFlat := by simp [xs, IsFlat, parts, one, other, isUnion]
  have hys : ∀ t ∈ [TypeExpr.ref "T", .null], t.IsFlat := by simp [IsFlat, parts, isUnion]
  have hzs : ∀ t ∈ [TypeExpr.list one], t.IsFlat := by simp [IsFlat, parts, isUnion]
  obtain ⟨-, -, -, hparts, hinner, -⟩ := unionOf_laws xs [.ref "T", .null] [.list one] hxs hys hzs
  exact ⟨hxs, hparts.trans rfl, hinner⟩

end TypedClient.TypeExpr
