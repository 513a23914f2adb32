import Mathlib.Logic.Relation
import TypedClient.Proofs.Selection

set_option autoImplicit false

namespace TypedClient

namespace Selector

def holding (before : List (String × Selector)) (way : Projection) (map after : List (String × Selector)) :
    Selector :=
  .node (before ++ (way.key, .node map) :: after)

/-- One entry that asks for nothing is left out: of a map under a way to select, or in the same manner of a
selector that stands in such a map. -/
inductive Drops : Selector → Selector → Prop where
  | entry {before after first rest : List (String × Selector)} {way : Projection} {key : String}
      {s : Selector} : s.isTrue = false →
      Drops (holding before way (first ++ (key, s) :: rest) after) (holding before way (first ++ rest) after)
  | inside {before after first rest : List (String × Selector)} {way : Projection} {key : String}
      {s t : Selector} : Drops s t →
      Drops (holding before way (first ++ (key, s) :: rest) after)
        (holding before way (first ++ (key, t) :: rest) after)

def Thins : Selector → Selector → Prop := Relation.ReflTransGen Drops

theorem Drops.isTrue {s t : Selector} (h : s.Drops t) : s.isTrue = true ∧ t.isTrue = true := by
  cases h <;> exact ⟨rfl, rfl⟩

end Selector

namespace Document

variable {d : Document} {p : Projected} {way : Projection}

theorem resolveKeys_congr {entries entries' : List (String × Selector)}
    (h : d.resolveKeys p way entries = d.resolveKeys p way entries') (before : List (String × Selector)) :
    d.resolveKeys p way (before ++ entries) = d.resolveKeys p way (before ++ entries') := by
  induction before with
  | nil => exact h
  | cons entry before ih => rw [List.cons_append, List.cons_append, resolveKeys, resolveKeys, ih]

theorem resolveUnder_congr {map map' : List (String × Selector)}
    (h : d.resolveKeys p way map = d.resolveKeys p way map') (before after : List (String × Selector))
    (key : String) :
    d.resolveUnder p way (before ++ (key, .node map) :: after) =
      d.resolveUnder p way (before ++ (key, .node map') :: after) := by
  induction before with
  | nil => rw [List.nil_append, List.nil_append, resolveUnder, resolveUnder, resolveMap, resolveMap, h]
  | cons entry before ih => rw [List.cons_append, List.cons_append, resolveUnder, resolveUnder, ih]

theorem resolve_holding_congr {map map' : List (String × Selector)}
    (h : ∀ p way, d.resolveKeys p way map = d.resolveKeys p way map') (name : String)
    (before after : List (String × Selector)) (way : Projection) :
    d.resolve name (.holding before way map after) = d.resolve name (.holding before way map' after) := by
  have hhas : ∀ w, Selector.has (before ++ (way.key, .node map) :: after) w =
      Selector.has (before ++ (way.key, .node map') :: after) w := fun w => by simp [Selector.has]
  simp only [Selector.holding, resolve, hhas, resolveUnder_congr (h _ _)]

theorem resolve_of_drops {s t : Selector} (h : s.Drops t) (name : String) :
    d.resolve name t = d.resolve name s := by
  -- a selector further inside is evaluated on another record type, which is left open
  induction h generalizing name with
  | @entry before after first rest _ key s hs =>
    refine resolve_holding_congr (fun p way => resolveKeys_congr ?_ first) name _ _ _
    rw [resolveKeys, hs, if_neg Bool.false_ne_true]
  | @inside before after first rest _ key s t hst ih =>
    refine resolve_holding_congr (fun p way => resolveKeys_congr ?_ first) name _ _ _
    obtain ⟨hs, ht⟩ := hst.isTrue
    rw [resolveKeys, resolveKeys, hs, ht]
    simp only [ih]

theorem resolve_of_thins {s t : Selector} (h : s.Thins t) (name : String) :
    d.resolve name t = d.resolve name s := by
  induction h with
  | refl => rfl
  | tail _ hstep ih => exact (resolve_of_drops hstep name).trans ih

end Document

end TypedClient
