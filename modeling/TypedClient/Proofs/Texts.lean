import TypedClient.Proofs.Decoding

set_option autoImplicit false

namespace TypedClient.Json

open Letter (pair?)
open Text (Unpaired)

mutual

/-- The texts in a value. The names of members, which have an encoding, are left out. -/
def texts : Json → List Text
  | .str t => [t]
  | .arr items => textsOfItems items
  | .obj members => textsOfMembers members
  | _ => []

def textsOfItems : List Json → List Text
  | [] => []
  | j :: rest => texts j ++ textsOfItems rest

def textsOfMembers : List (String × Json) → List Text
  | [] => []
  | (_, j) :: rest => texts j ++ textsOfMembers rest

end

theorem textsOfItems_eq (items : List Json) : textsOfItems items = items.flatMap texts := by
  induction items with
  | nil => rfl
  | cons j items ih => rw [textsOfItems, ih, List.flatMap_cons]

theorem textsOfMembers_eq (members : List (String × Json)) :
    textsOfMembers members = members.flatMap fun m => texts m.2 := by
  induction members with
  | nil => rfl
  | cons m members ih => rw [textsOfMembers, ih, List.flatMap_cons]

theorem writeLetter_full_half (h : Half) : writeLetter .full (.half h) = [.half h] :=
  if_pos (Charset.admits_full_half h)

/-- A character is written by characters. -/
theorem exists_writeLetter_full_char (c : Char) : ∃ s : String, writeLetter .full (.char c) = s := by
  unfold writeLetter
  split
  · exact ⟨String.ofList [c], (Text.ofString_ofList [c]).symm⟩
  · exact ⟨String.ofList (escape (.char c)), (Text.ofString_ofList _).symm⟩

theorem exists_writeLetter_full_cons (l : Letter) :
    ∃ x xs, writeLetter .full l = x :: xs ∧ ∀ a, pair? a x = none ↔ pair? a l = none := by
  cases l with
  | half h => exact ⟨.half h, [], writeLetter_full_half h, fun a => Iff.rfl⟩
  | char c =>
    obtain ⟨x, xs, heq⟩ := List.exists_cons_of_ne_nil (writeLetter_ne_nil .full (.char c))
    obtain ⟨s, hs⟩ := exists_writeLetter_full_char c
    have hx : x ∈ (s : Text) := by
      rw [← hs, heq]
      exact List.mem_cons_self
    obtain ⟨b, -, rfl⟩ := List.mem_map.mp hx
    exact ⟨.char b, xs, heq, fun a => by rw [Letter.pair?_char_right, Letter.pair?_char_right]⟩

theorem unpaired_flatMap_writeLetter (t : Text) : Unpaired (t.flatMap (writeLetter .full)) ↔ Unpaired t := by
  induction t with
  | nil => rfl
  | cons l t ih =>
    rw [List.flatMap_cons]
    cases l with
    | char c =>
      obtain ⟨s, hs⟩ := exists_writeLetter_full_char c
      rw [hs, Text.unpaired_append_iff, Text.unpaired_cons_iff, ih]
    | half h =>
      rw [writeLetter_full_half, List.singleton_append]
      cases t with
      | nil => rfl
      | cons b t =>
        obtain ⟨x, xs, hb, hmeet⟩ := exists_writeLetter_full_cons b
        rw [List.flatMap_cons, hb, List.cons_append] at ih ⊢
        rw [Text.unpaired_cons_cons_iff, Text.unpaired_cons_cons_iff, hmeet, ih]

theorem unpaired_quoteWith (t : Text) : Unpaired (quoteWith .full t) ↔ Unpaired t := by
  rw [quoteWith, List.cons_append, Text.unpaired_cons_iff, Text.unpaired_append_cons_iff,
    unpaired_flatMap_writeLetter]
  simp [Unpaired]

theorem unpaired_joinedItems (items : List Json) :
    Unpaired (joinedItems items) ↔ ∀ j ∈ items, Unpaired (compact .full j) := by
  induction items with
  | nil => simp [joinedItems, compactItems, Unpaired]
  | cons j items ih =>
    cases items with
    | nil => simp [joinedItems, compactItems]
    | cons k items =>
      rw [joinedItems_cons_cons, Text.unpaired_append_cons_iff, List.forall_mem_cons]
      exact and_congr_right fun _ => ih

theorem unpaired_writtenMember (m : String × Json) :
    Unpaired (writtenMember m) ↔ Unpaired (compact .full m.2) := by
  rw [writtenMember, Text.unpaired_append_cons_iff, unpaired_quoteWith]
  exact and_iff_right (Text.unpaired_of_isWhole (Text.isWhole_ofString m.1))

theorem unpaired_joinedMembers (members : List (String × Json)) :
    Unpaired (joinedMembers members) ↔ ∀ m ∈ members, Unpaired (compact .full m.2) := by
  induction members with
  | nil => simp [joinedMembers, compactMembers, Unpaired]
  | cons m members ih =>
    cases members with
    | nil => simp [joinedMembers_singleton, unpaired_writtenMember]
    | cons k members =>
      rw [joinedMembers_cons_cons, Text.unpaired_append_cons_iff, List.forall_mem_cons, unpaired_writtenMember]
      exact and_congr_right fun _ => ih

theorem unpaired_compact {n : Nat} {j : Json} (h : Textual n j) :
    Unpaired (compact .full j) ↔ ∀ t ∈ texts j, Unpaired t := by
  induction h with
  | null => decide
  | bool b => cases b <;> decide
  | str t => simp [compact, texts, unpaired_quoteWith]
  | @arr n items h ih =>
    rw [compact_arr, Text.unpaired_cons_iff, Text.unpaired_append_cons_iff, unpaired_joinedItems, texts,
      textsOfItems_eq]
    simp only [List.mem_flatMap]
    constructor
    · rintro ⟨hitems, -⟩ t ⟨j, hj, ht⟩
      exact (ih j hj).mp (hitems j hj) t ht
    · intro htexts
      exact ⟨fun j hj => (ih j hj).mpr fun t ht => htexts t ⟨j, hj, ht⟩, List.IsChain.nil⟩
  | @obj n members hnames h ih =>
    rw [compact_obj, Text.unpaired_cons_iff, Text.unpaired_append_cons_iff, unpaired_joinedMembers, texts,
      textsOfMembers_eq]
    simp only [List.mem_flatMap]
    constructor
    · rintro ⟨hmembers, -⟩ t ⟨m, hm, ht⟩
      exact (ih m hm).mp (hmembers m hm) t ht
    · intro htexts
      exact ⟨fun m hm => (ih m hm).mpr fun t ht => htexts t ⟨m, hm, ht⟩, List.IsChain.nil⟩

end TypedClient.Json
