import TypedClient.Proofs.Conflict
import TypedClient.Proofs.Thinning

set_option autoImplicit false

namespace TypedClient

/-! ## Members put over others -/

theorem putMember_of_mem {ms : List Member} {m : Member} (h : m.name ∈ ms.map (·.name)) :
    putMember ms m = ms.map fun n => if n.name = m.name then m else n := by
  have hany : ms.any (·.name == m.name) = true := by simpa using h
  simp only [putMember, hany, if_true, beq_iff_eq]

theorem putMember_of_notMem {ms : List Member} {m : Member} (h : m.name ∉ ms.map (·.name)) :
    putMember ms m = ms ++ [m] := by
  have hany : ¬ ms.any (·.name == m.name) = true := by simpa using h
  rw [putMember, if_neg hany]

theorem foldl_putMember_eq (found init : List Member) (h : (found.map (·.name)).Nodup) :
    found.foldl putMember init =
      init.map (fun own => (found.find? (·.name == own.name)).getD own)
        ++ found.filter (·.name ∉ init.map (·.name)) := by
  induction found generalizing init with
  | nil => simp
  | cons m rest ih =>
    rw [List.map_cons, List.nodup_cons] at h
    obtain ⟨hm, hrest⟩ := h
    have hnone : rest.find? (·.name == m.name) = none := by
      rw [List.find?_eq_none]
      exact fun n hn heq => hm (List.mem_map.mpr ⟨n, hn, by simpa using heq⟩)
    rw [List.foldl_cons, ih _ hrest]
    by_cases hmem : m.name ∈ init.map (·.name)
    · -- the new member replaces one, and no later one has its name
      have hnames : (init.map fun n => if n.name = m.name then m else n).map (·.name) = init.map (·.name) := by
        rw [List.map_map]
        refine List.map_congr_left fun n _ => ?_
        by_cases hn : n.name = m.name <;> simp [hn]
      rw [putMember_of_mem hmem, hnames, List.filter_cons_of_neg (by simpa using hmem), List.map_map]
      congr 1
      refine List.map_congr_left fun own _ => ?_
      by_cases hown : own.name = m.name
      · simp [hown, hnone]
      · simp [hown, Ne.symm hown]
    · have hother : ∀ own ∈ init, ¬ m.name = own.name := fun own hown heq =>
        hmem (List.mem_map.mpr ⟨own, hown, heq.symm⟩)
      have hkept : init.map (fun own => (rest.find? (·.name == own.name)).getD own) =
          init.map fun own => ((m :: rest).find? (·.name == own.name)).getD own :=
        List.map_congr_left fun own hown => by
          rw [List.find?_cons_of_neg (by simpa using hother own hown)]
      have hadded : rest.filter (·.name ∉ init.map (·.name) ++ [m].map (·.name)) =
          rest.filter (·.name ∉ init.map (·.name)) :=
        List.filter_congr fun n hn => by
          have hne : n.name ≠ m.name := fun heq => hm (List.mem_map.mpr ⟨n, hn, heq⟩)
          simp [hne]
      rw [putMember_of_notMem hmem, List.map_append, List.map_append,
        List.filter_cons_of_pos (by simpa using hmem), hkept, hadded, List.map_singleton, hnone,
        Option.getD_none, List.append_assoc, List.singleton_append]

theorem exists_foldl_putMember (found init : List Member) (h : (found.map (·.name)).Nodup) :
    ∃ kept added, found.foldl putMember init = kept ++ added ∧
      List.Forall₂ (fun own m => m.name = own.name ∧ (own.name ∉ found.map (·.name) → m = own)) init kept ∧
      added.map (·.name) = (found.map (·.name)).filter (· ∉ init.map (·.name)) := by
  refine ⟨_, _, foldl_putMember_eq found init h, ?_, ?_⟩
  · rw [List.forall₂_map_right_iff, List.forall₂_same]
    intro own _
    cases hfind : found.find? (·.name == own.name) with
    | none => exact ⟨rfl, fun _ => rfl⟩
    | some m =>
      have hname : m.name = own.name := by simpa using List.find?_some hfind
      exact ⟨hname, fun hnot => absurd (List.mem_map.mpr ⟨m, List.mem_of_find?_eq_some hfind, hname⟩) hnot⟩
  · rw [List.filter_map]
    rfl

/-! ## The members of a payload -/

def Selector.Keyed (s : Selector) : Prop := (s.entries.map (·.1)).Nodup

theorem Selector.Keyed.nodup_trueKeys {s : Selector} (h : s.Keyed) : s.trueKeys.Nodup :=
  h.sublist (List.filter_sublist.map _)

/-- What a payload of a record type lists. Under `select` these are the keys that are asked for, in their order
and each once. Under `include` these are the plain members in their order, each as it is unless its name is asked
for, and behind them the other keys that are asked for. A map with neither has the value type. -/
structure Entity.Lists (e : Entity) (s : Selector) (type : TypeExpr) : Prop where
  selected : ∀ child, s.under? .select = some child → child.Keyed →
    ∃ ms, type = .object ms (some e.name) ∧ ms.map (·.name) = child.trueKeys ∧ child.trueKeys.Nodup
  included : ∀ child, s.under? .include = some child → child.Keyed →
    ∃ kept added, type = .object (kept ++ added) (some e.name) ∧
      List.Forall₂ (fun own m => m.name = own.name ∧ (own.name ∉ child.trueKeys → m = own))
        e.valueShape.members kept ∧
      added.map (·.name) = child.trueKeys.filter (· ∉ e.valueShape.memberNames)
  unselective : ∀ entries, s = .node entries → (∀ way, s.under? way = none) → type = e.valueShape

namespace Document

variable {d : Document} {name : String} {s : Selector}

theorem lists_of_resolve {e : Entity} (he : d.entity? name = some e) {type : TypeExpr}
    (h : d.resolve name s = .ok type) : e.Lists s type := by
  have hentity : ∀ p, d.projected? name = some p → p.entity = e := fun p hp => by
    obtain ⟨_, hp, -⟩ := projected?_eq_some_iff.mp hp
    exact Option.some.inj (hp.symm.trans he)
  constructor
  case selected =>
    intro child hchild hkeys
    obtain ⟨p, found, hp, hnames, rfl⟩ := exists_found_of_resolve h hchild
    refine ⟨found, ?_, hnames, hkeys.nodup_trueKeys⟩
    rw [Projected.assemble, hentity p hp]
  case included =>
    intro child hchild hkeys
    obtain ⟨p, found, hp, hnames, rfl⟩ := exists_found_of_resolve h hchild
    obtain ⟨kept, added, hmembers, hkept, hadded⟩ :=
      exists_foldl_putMember found e.valueShape.members (hnames ▸ hkeys.nodup_trueKeys)
    rw [hnames] at hkept hadded
    refine ⟨kept, added, ?_, hkept, hadded⟩
    rw [← hmembers, Projected.assemble, Projected.initial, hentity p hp]
  case unselective =>
    rintro entries rfl hnone
    rw [resolve_node he, hnone, hnone] at h
    cases h
    rfl

/-- In a document that is read, what a selector makes of a record type lists what it asks for, and so does the
payload of every selector that it leads to. Entries that ask for nothing can be left out of it at any depth: the
payload stays the same, and so does the fault if there is no payload. -/
theorem payload_lists (raw : Data) (d : Document) (hread : Document.read raw = .ok d) (e : Entity)
    (he : e ∈ d.entities) (s : Selector) :
    (∀ type, d.resolve e.name s = .ok type → e.Lists s type ∧
        ∀ target inner, d.Reaches e.name s target inner →
          ∃ f ∈ d.entities, f.name = target ∧ ∃ part, d.resolve target inner = .ok part ∧ f.Lists inner part) ∧
      ∀ t, s.Thins t → d.resolve e.name t = d.resolve e.name s := by
  have hfound := entity?_of_mem (wellFormed_of_read hread).entities he
  refine ⟨fun type htype => ⟨lists_of_resolve hfound htype, fun target inner hreach => ?_⟩,
    fun t hthins => resolve_of_thins hthins e.name⟩
  obtain ⟨part, hpart⟩ := isOk_of_reaches hreach ⟨type, htype⟩
  obtain ⟨f, hf⟩ := exists_entity_of_resolve hpart
  exact ⟨f, List.mem_of_find?_eq_some hf, by simpa using List.find?_some hf, part, hpart, lists_of_resolve hf hpart⟩

def authorAnd (more : List (String × Selector)) : Selector :=
  .node [("select", .node (("author", .on) :: more))]

/-- What is asked for of a user. In this map and in the one inside an entry asks for nothing. -/
def unthinnedKeys : List (String × Selector) :=
  [("posts", authorAnd [("draft", .off)]), ("id", .on), ("team", .undefined)]

def unthinned : Selector := .node [("include", .node unthinnedKeys)]

def thinned : Selector := .node [("include", .node [("posts", authorAnd []), ("id", .on)])]

theorem unthinned_thins : unthinned.Thins thinned := by
  have hteam : Selector.Drops
      (.holding [] .include ([("posts", authorAnd [("draft", .off)]), ("id", .on)] ++ ("team", .undefined) :: []) [])
      (.holding [] .include ([("posts", authorAnd [("draft", .off)]), ("id", .on)] ++ []) []) := .entry rfl
  have hdraft : Selector.Drops (.holding [] .select ([("author", .on)] ++ ("draft", .off) :: []) [])
      (.holding [] .select ([("author", .on)] ++ []) []) := .entry rfl
  have hposts : Selector.Drops
      (.holding [] .include ([] ++ ("posts", authorAnd [("draft", .off)]) :: [("id", .on)]) [])
      (.holding [] .include ([] ++ ("posts", authorAnd []) :: [("id", .on)]) []) := .inside hdraft
  exact (Relation.ReflTransGen.single hteam).tail hposts

theorem unthinned_reaches_post : blog.Reaches "User" unthinned "Post" (authorAnd [("draft", .off)]) := by
  have hinclude : unthinned.under? .include = some (.node unthinnedKeys) := rfl
  have hposts : ("posts", authorAnd [("draft", .off)]) ∈ Selector.asked (.node unthinnedKeys) := .head _
  exact .step rfl hinclude hposts rfl rfl (.refl "Post" _)

theorem unthinned_listed :
    let user := blog.entities[0]
    Document.read (.ofJson (blog.toJson .usual)) = .ok blog ∧ user ∈ blog.entities ∧ unthinned.Thins thinned ∧
      ∃ type part, blog.resolve user.name unthinned = .ok type ∧ type.memberNames = ["id", "posts"] ∧
        blog.resolve user.name thinned = .ok type ∧
        blog.resolve "Post" (authorAnd [("draft", .off)]) = .ok part ∧ part.memberNames = ["author"] := by
  intro user
  have hmem : user ∈ blog.entities := by decide
  obtain ⟨hpayload, hsame⟩ := payload_lists _ blog blog_read user hmem unthinned
  obtain ⟨type, htype⟩ : ∃ type, blog.resolve user.name unthinned = .ok type := ⟨_, rfl⟩
  obtain ⟨hlists, hinner⟩ := hpayload type htype
  obtain ⟨kept, added, rfl, hkept, hadded⟩ :=
    hlists.included _ rfl (show List.Nodup ["posts", "id", "team"] by decide)
  have hnames : (kept ++ added).map (·.name) = ["id", "posts"] := by
    rw [List.map_append, map_eq_of_forall₂ hkept fun own m h => h.1, hadded]
    rfl
  obtain ⟨_, -, -, part, hpart, hpost⟩ := hinner "Post" _ unthinned_reaches_post
  obtain ⟨ms, rfl, hauthor, -⟩ := hpost.selected _ rfl (show List.Nodup ["author", "draft"] by decide)
  exact ⟨blog_read, hmem, unthinned_thins, _, _, htype, hnames, (hsame _ unthinned_thins).trans htype, hpart, hauthor⟩

end Document

end TypedClient
