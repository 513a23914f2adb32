import Mathlib.Data.List.Sort
import Mathlib.Data.String.Basic
import TypedClient.Check.Defect
import TypedClient.Proofs.Collision

set_option autoImplicit false

namespace TypedClient

theorem map_name_collisions (entities reserved : List String) :
    (collisions entities reserved).map (·.name) =
      (distinct (reserved ++ (derivedFrom entities).map (·.name))).filter
        fun n => 1 < (reserved ++ (derivedFrom entities).map (·.name)).count n := by
  rw [collisions, ← map_name_nameUses, List.filter_map, List.map_map]
  simp only [Function.comp_def, length_ownersOf, List.map_id']

theorem nodup_map_name_collisions (entities reserved : List String) :
    ((collisions entities reserved).map (·.name)).Nodup := by
  rw [map_name_collisions]
  exact (nodup_distinct _).filter _

theorem ownersOf_nameUses (entities reserved : List String) (n : String) :
    ownersOf (nameUses entities reserved) n =
      (reserved.filter (· == n)).map (fun m => "declared type '" ++ m ++ "'") ++
        ((derivedFrom entities).filter (·.name == n)).map (·.owner) := by
  simp only [ownersOf, nameUses, List.filter_append, List.map_append, List.filter_map, List.map_map]
  rfl

theorem exists_collision_iff (entities reserved : List String) (n : String) (k : Nat) :
    (∃ c ∈ collisions entities reserved, c.name = n ∧ c.owners.length = k) ↔
      1 < k ∧ (reserved ++ (derivedFrom entities).map (·.name)).count n = k := by
  simp only [mem_collisions_iff]
  constructor
  · rintro ⟨c, ⟨howners, hcount⟩, rfl, rfl⟩
    rw [howners, length_ownersOf, map_name_nameUses]
    exact ⟨hcount, rfl⟩
  · rintro ⟨hk, rfl⟩
    refine ⟨⟨n, ownersOf (nameUses entities reserved) n⟩, ⟨rfl, hk⟩, rfl, ?_⟩
    rw [length_ownersOf, map_name_nameUses]

/-! ## Collecting owners in one pass -/

/-- Take one more use into account: its owner joins the owners of the name, and a name that is new comes last. -/
def claim (found : List Collision) (use : NameUse) : List Collision :=
  if found.any (·.name == use.name) then
    found.map fun c => if c.name == use.name then ⟨c.name, c.owners ++ [use.owner]⟩ else c
  else found ++ [⟨use.name, [use.owner]⟩]

def claimsOf (uses : List NameUse) : List Collision :=
  (distinct (uses.map (·.name))).map fun n => ⟨n, ownersOf uses n⟩

theorem ownersOf_concat (uses : List NameUse) (use : NameUse) (n : String) :
    ownersOf (uses ++ [use]) n = ownersOf uses n ++ if use.name = n then [use.owner] else [] := by
  rw [ownersOf, List.filter_append, List.map_append]
  by_cases h : use.name = n <;> simp [h, ownersOf]

theorem ownersOf_eq_nil {uses : List NameUse} {n : String} (h : n ∉ uses.map (·.name)) : ownersOf uses n = [] := by
  rw [← List.length_eq_zero_iff, length_ownersOf]
  exact List.count_eq_zero_of_not_mem h

theorem claim_claimsOf (uses : List NameUse) (use : NameUse) :
    claim (claimsOf uses) use = claimsOf (uses ++ [use]) := by
  have hany : (claimsOf uses).any (·.name == use.name) = true ↔ use.name ∈ uses.map (·.name) := by
    simp [claimsOf, mem_distinct_iff]
  have hother : ∀ n, n ≠ use.name → ownersOf (uses ++ [use]) n = ownersOf uses n := fun n hn => by
    rw [ownersOf_concat, if_neg hn.symm, List.append_nil]
  have hclaims : claimsOf (uses ++ [use]) =
      (if use.name ∈ uses.map (·.name) then distinct (uses.map (·.name))
        else distinct (uses.map (·.name)) ++ [use.name]).map fun n => ⟨n, ownersOf (uses ++ [use]) n⟩ := by
    rw [claimsOf, List.map_append, List.map_singleton, distinct_concat]
  rw [claim, hclaims]
  by_cases hmem : use.name ∈ uses.map (·.name)
  · rw [if_pos (hany.mpr hmem), if_pos hmem, claimsOf, List.map_map]
    refine List.map_congr_left fun n _ => ?_
    by_cases hn : n = use.name
    · simp [hn, ownersOf_concat]
    · simp [hn, hother n hn]
  · rw [if_neg (mt hany.mp hmem), if_neg hmem, List.map_append, List.map_singleton, ownersOf_concat,
      ownersOf_eq_nil hmem, if_pos rfl, List.nil_append]
    congr 1
    refine List.map_congr_left fun n hn => ?_
    rw [hother n fun heq => hmem (heq ▸ (mem_distinct_iff _ _).mp hn)]

theorem foldl_claim (seen uses : List NameUse) :
    uses.foldl claim (claimsOf seen) = claimsOf (seen ++ uses) := by
  induction uses generalizing seen with
  | nil =>
    rw [List.append_nil]
    rfl
  | cons use rest ih => rw [List.foldl_cons, claim_claimsOf, ih, List.append_assoc, List.singleton_append]

/-! ## What is reported -/

namespace Document

theorem exists_sorted_identifierDefects (d : Document) (extra : List String) :
    ∃ cs : List Collision, d.identifierDefects extra = cs.map .nameCollision ∧
      (d.identifierDefects extra).map (fun x => (x.finding.level, x.finding.code, x.finding.context)) =
        cs.map (fun c => (.error, "NAME_COLLISION", [("identifier", .str c.name)])) ∧
      cs.Perm (collisions d.entityNames (d.reservedNames extra)) ∧ cs.Pairwise (·.name < ·.name) := by
  let found := collisions d.entityNames (d.reservedNames extra)
  let upTo : Collision → Collision → Bool := fun a b => decide (a.name ≤ b.name)
  have hperm : (found.mergeSort upTo).Perm found := List.mergeSort_perm found upTo
  have hsorted : (found.mergeSort upTo).Pairwise fun a b => upTo a b :=
    List.pairwise_mergeSort (fun a b c => by simpa [upTo] using le_trans)
      (fun a b => by simpa [upTo] using le_total a.name b.name) found
  have hdistinct : (found.mergeSort upTo).Pairwise (·.name ≠ ·.name) :=
    (hperm.pairwise_iff fun {a b} h => Ne.symm h).mpr (List.pairwise_map.mp (nodup_map_name_collisions _ _))
  refine ⟨found.mergeSort upTo, rfl, List.map_map, hperm, (hsorted.and hdistinct).imp fun {a b} h => ?_⟩
  exact lt_of_le_of_ne (of_decide_eq_true h.1) h.2

end Document

/-- The collisions are what one pass over all uses finds with several owners. They are the names that occur at least
twice, in the order of first occurrence, each with one owner for every occurrence: first the declarations, then what
derives it. So there is none exactly when all names are different, and neither the names nor the numbers of owners
depend on the order of record types and of declared names. The check of a document reports each once as an error, in
ascending order. -/
theorem collisions_exact (entities reserved : List String) :
    let names := reserved ++ (derivedFrom entities).map (·.name)
    let found := collisions entities reserved
    found = ((nameUses entities reserved).foldl claim []).filter (1 < ·.owners.length) ∧
      (∀ n, n ∈ found.map (·.name) ↔ 2 ≤ names.count n) ∧
      (found.map (·.name)).Pairwise (fun m n => names.idxOf m < names.idxOf n) ∧
      (∀ c ∈ found, c.owners.length = names.count c.name ∧
        c.owners = (reserved.filter (· == c.name)).map (fun n => "declared type '" ++ n ++ "'") ++
          ((derivedFrom entities).filter (·.name == c.name)).map (·.owner)) ∧
      (found = [] ↔ names.Nodup) ∧
      (∀ es rs, es.Perm entities → rs.Perm reserved → ∀ n k,
        (∃ c ∈ collisions es rs, c.name = n ∧ c.owners.length = k) ↔
          ∃ c ∈ found, c.name = n ∧ c.owners.length = k) ∧
      ∀ (d : Document) (extra : List String), ∃ cs : List Collision,
        d.identifierDefects extra = cs.map .nameCollision ∧
          (d.identifierDefects extra).map (fun x => (x.finding.level, x.finding.code, x.finding.context)) =
            cs.map (fun c => (.error, "NAME_COLLISION", [("identifier", .str c.name)])) ∧
          cs.Perm (collisions d.entityNames (d.reservedNames extra)) ∧ cs.Pairwise (·.name < ·.name) := by
  intro names found
  refine ⟨?_, fun n => ?_, ?_, fun c hc => ?_, collisions_eq_nil_iff entities reserved, ?_,
    Document.exists_sorted_identifierDefects⟩
  · exact congrArg (List.filter _) (foldl_claim [] (nameUses entities reserved)).symm
  · rw [map_name_collisions, List.mem_filter, mem_distinct_iff, decide_eq_true_iff]
    exact and_iff_right_of_imp fun h => List.count_pos_iff.mp (Nat.zero_lt_of_lt h)
  · rw [map_name_collisions]
    exact (pairwise_idxOf_distinct names).filter _
  · have howners := ((mem_collisions_iff entities reserved c).mp hc).1
    refine ⟨?_, howners.trans (ownersOf_nameUses entities reserved c.name)⟩
    rw [howners, length_ownersOf, map_name_nameUses]
  · intro es rs hes hrs n k
    have hnames : (rs ++ (derivedFrom es).map (·.name)).Perm names :=
      hrs.append ((hes.flatMap_right _).map _)
    rw [exists_collision_iff, exists_collision_iff, hnames.count_eq]

theorem declared_twice_collide :
    let found := collisions ["User", "FindManyUser"] ["Role", "UserSelect", "UserSelect"]
    found.map (·.name) = ["UserSelect", "FindManyUserArgs"] ∧
      ∃ c ∈ collisions ["FindManyUser", "User"] ["UserSelect", "UserSelect", "Role"],
        c.name = "UserSelect" ∧ c.owners.length = 3 := by
  intro found
  obtain ⟨-, -, -, howners, -, hperm, -⟩ :=
    collisions_exact ["User", "FindManyUser"] ["Role", "UserSelect", "UserSelect"]
  have hnames : found.map (·.name) = ["UserSelect", "FindManyUserArgs"] := by decide
  obtain ⟨c, hc, hname⟩ : ∃ c ∈ found, c.name = "UserSelect" := List.mem_map.mp (by simp [hnames])
  have hlength := (howners c hc).1
  rw [hname] at hlength
  exact ⟨hnames, (hperm _ _ (by decide) (by decide) "UserSelect" 3).mpr ⟨c, hc, hname, hlength⟩⟩

end TypedClient
