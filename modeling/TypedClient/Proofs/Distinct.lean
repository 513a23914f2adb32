import Mathlib.Data.List.Nodup
import TypedClient.Distinct

set_option autoImplicit false

namespace TypedClient

variable {α β : Type} [DecidableEq β] (key : α → β)

theorem uniqueBy_cons (x : α) (xs : List α) :
    uniqueBy key (x :: xs) = x :: (uniqueBy key xs).filter (key · ≠ key x) := rfl

theorem sublist_uniqueBy (xs : List α) : (uniqueBy key xs).Sublist xs := by
  induction xs with
  | nil => exact .slnil
  | cons x xs ih =>
    rw [uniqueBy_cons]
    exact (List.filter_sublist.trans ih).cons_cons x

theorem nodup_map_uniqueBy (xs : List α) : ((uniqueBy key xs).map key).Nodup := by
  induction xs with
  | nil => exact .nil
  | cons x xs ih =>
    rw [uniqueBy_cons, List.map_cons, List.nodup_cons]
    constructor
    · intro hx
      obtain ⟨y, hy, hk⟩ := List.mem_map.mp hx
      have hne : key y ≠ key x := by simpa using (List.mem_filter.mp hy).2
      exact hne hk
    · exact ih.sublist (List.filter_sublist.map key)

theorem find?_uniqueBy (k : β) (xs : List α) :
    (uniqueBy key xs).find? (key · == k) = xs.find? (key · == k) := by
  induction xs with
  | nil => rfl
  | cons x xs ih =>
    rw [uniqueBy_cons]
    by_cases hx : key x = k
    · simp [hx]
    · have hp : ∀ y, (key y ≠ key x ∧ key y = k) ↔ key y = k := by
        intro y
        exact ⟨And.right, fun hy => ⟨fun he => hx (he.symm.trans hy), hy⟩⟩
      rw [List.find?_cons_of_neg (by simpa using hx), List.find?_cons_of_neg (by simpa using hx), ← ih,
        List.find?_filter]
      simp only [decide_eq_true_eq, beq_iff_eq, hp, ← beq_eq_decide]

theorem mem_uniqueBy_iff (x : α) (xs : List α) :
    x ∈ uniqueBy key xs ↔ xs.find? (key · == key x) = some x := by
  rw [← find?_uniqueBy]
  constructor
  · intro hx
    cases hf : (uniqueBy key xs).find? (key · == key x) with
    | none => exact absurd (by simp) (List.find?_eq_none.mp hf x hx)
    | some y =>
      have hk : key y = key x := by simpa using List.find?_some hf
      have hy := List.mem_of_find?_eq_some hf
      rw [List.inj_on_of_nodup_map (nodup_map_uniqueBy key xs) hy hx hk]
  · exact List.mem_of_find?_eq_some

theorem map_uniqueBy (xs : List α) : (uniqueBy key xs).map key = distinct (xs.map key) := by
  induction xs with
  | nil => rfl
  | cons x xs ih =>
    have hf : (uniqueBy id (xs.map key)).filter (id · ≠ id (key x)) =
        ((uniqueBy key xs).filter (key · ≠ key x)).map key := by
      rw [show uniqueBy id (xs.map key) = (uniqueBy key xs).map key from ih.symm, List.filter_map]
      rfl
    rw [distinct, List.map_cons, uniqueBy_cons, uniqueBy_cons, List.map_cons, hf]

theorem nodup_distinct (ks : List β) : (distinct ks).Nodup := by
  simpa [distinct] using nodup_map_uniqueBy id ks

theorem mem_distinct_iff (k : β) (ks : List β) : k ∈ distinct ks ↔ k ∈ ks := by
  rw [distinct, mem_uniqueBy_iff]
  constructor
  · exact List.mem_of_find?_eq_some
  · intro hk
    cases hf : ks.find? (id · == id k) with
    | none => exact absurd (by simp) (List.find?_eq_none.mp hf k hk)
    | some y => rw [show y = k by simpa using List.find?_some hf]

theorem mem_map_uniqueBy_iff (k : β) (xs : List α) : k ∈ (uniqueBy key xs).map key ↔ k ∈ xs.map key := by
  rw [map_uniqueBy, mem_distinct_iff]

theorem uniqueBy_filter (p : β → Bool) (xs : List α) :
    uniqueBy key (xs.filter fun x => p (key x)) = (uniqueBy key xs).filter fun x => p (key x) := by
  induction xs with
  | nil => rfl
  | cons x xs ih =>
    rw [List.filter_cons, uniqueBy_cons, List.filter_cons]
    by_cases hx : p (key x) = true
    · rw [if_pos hx, if_pos hx, uniqueBy_cons, ih, List.filter_comm]
    · rw [if_neg hx, if_neg hx, ih, List.filter_filter]
      -- an item that the filter keeps has a key other than that of the item it drops
      refine List.filter_congr fun y _ => ?_
      by_cases hy : key y = key x
      · simp [hy, hx]
      · simp [hy]

theorem uniqueBy_append (xs ys : List α) :
    uniqueBy key (xs ++ ys) = uniqueBy key xs ++ (uniqueBy key ys).filter (key · ∉ xs.map key) := by
  induction xs with
  | nil => simp [uniqueBy]
  | cons x xs ih =>
    rw [List.cons_append, uniqueBy_cons, ih, uniqueBy_cons, List.filter_append, List.filter_filter, List.cons_append]
    refine congrArg (x :: _ ++ ·) (List.filter_congr fun y _ => ?_)
    simp

theorem uniqueBy_eq_self {xs : List α} (h : (xs.map key).Nodup) : uniqueBy key xs = xs := by
  induction xs with
  | nil => rfl
  | cons x xs ih =>
    rw [List.map_cons, List.nodup_cons] at h
    rw [uniqueBy_cons, ih h.2, List.filter_eq_self.mpr]
    intro y hy
    have hne : key y ≠ key x := fun heq => h.1 (heq ▸ List.mem_map_of_mem hy)
    exact decide_eq_true hne

theorem uniqueBy_uniqueBy (xs : List α) : uniqueBy key (uniqueBy key xs) = uniqueBy key xs :=
  uniqueBy_eq_self key (nodup_map_uniqueBy key xs)

theorem uniqueBy_append_self (xs : List α) : uniqueBy key (xs ++ xs) = uniqueBy key xs := by
  rw [uniqueBy_append, List.filter_eq_nil_iff.mpr, List.append_nil]
  intro y hy
  have hmem : key y ∈ xs.map key := (mem_map_uniqueBy_iff key _ xs).mp (List.mem_map_of_mem hy)
  simpa using hmem

theorem uniqueBy_append_uniqueBy (xs ys zs : List α) :
    uniqueBy key (xs ++ (uniqueBy key ys ++ zs)) = uniqueBy key (xs ++ (ys ++ zs)) := by
  have hinner : uniqueBy key (uniqueBy key ys ++ zs) = uniqueBy key (ys ++ zs) := by
    rw [uniqueBy_append, uniqueBy_append, uniqueBy_uniqueBy]
    simp only [mem_map_uniqueBy_iff]
  rw [uniqueBy_append, hinner, ← uniqueBy_append]

theorem uniqueBy_map {γ : Type} (f : γ → α) (xs : List γ) :
    uniqueBy key (xs.map f) = (uniqueBy (key ∘ f) xs).map f := by
  induction xs with
  | nil => rfl
  | cons x xs ih =>
    rw [List.map_cons, uniqueBy_cons, ih, uniqueBy_cons, List.map_cons, List.filter_map]
    rfl

theorem uniqueBy_eq_distinct [DecidableEq α] {key : α → β} (h : Function.Injective key) (xs : List α) :
    uniqueBy key xs = distinct xs := by
  induction xs with
  | nil => rfl
  | cons x xs ih =>
    rw [uniqueBy_cons, ih, distinct, distinct, uniqueBy_cons]
    exact congrArg (x :: ·) (List.filter_congr fun y _ => by simp [h.eq_iff])

theorem pairwise_idxOf_distinct (ks : List β) :
    (distinct ks).Pairwise fun k l => ks.idxOf k < ks.idxOf l := by
  induction ks with
  | nil => exact .nil
  | cons k ks ih =>
    rw [distinct, uniqueBy_cons, List.pairwise_cons]
    have hne : ∀ l ∈ (uniqueBy id ks).filter (id · ≠ id k), k ≠ l := fun l hl =>
      Ne.symm (of_decide_eq_true (List.mem_filter.mp hl).2)
    constructor
    · intro l hl
      rw [List.idxOf_cons_self, List.idxOf_cons_ne _ (hne l hl)]
      exact Nat.succ_pos _
    · refine (ih.filter _).imp_of_mem fun {a b} ha hb hlt => ?_
      rw [List.idxOf_cons_ne _ (hne a ha), List.idxOf_cons_ne _ (hne b hb)]
      exact Nat.succ_lt_succ hlt

theorem uniqueBy_concat (xs : List α) (x : α) :
    uniqueBy key (xs ++ [x]) = if key x ∈ xs.map key then uniqueBy key xs else uniqueBy key xs ++ [x] := by
  have hlast : uniqueBy key [x] = [x] := rfl
  rw [uniqueBy_append, hlast, List.filter_singleton]
  by_cases hx : key x ∈ xs.map key
  · simp only [hx, not_true_eq_false, decide_false, cond_false, List.append_nil, if_true]
  · simp only [hx, not_false_eq_true, decide_true, cond_true, if_false]

theorem distinct_concat (ks : List β) (k : β) :
    distinct (ks ++ [k]) = if k ∈ ks then distinct ks else distinct ks ++ [k] := by
  rw [distinct, uniqueBy_concat, List.map_id]
  rfl

theorem one_lt_count_append_iff {ks ls : List β} (hks : ks.Nodup) (hls : ls.Nodup) (k : β) :
    1 < (ks ++ ls).count k ↔ k ∈ ks ∧ k ∈ ls := by
  have hleft := List.nodup_iff_count_le_one.mp hks k
  have hright := List.nodup_iff_count_le_one.mp hls k
  rw [List.count_append, ← List.count_pos_iff, ← List.count_pos_iff]
  omega

end TypedClient
