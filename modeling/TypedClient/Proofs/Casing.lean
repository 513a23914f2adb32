import Mathlib.Data.List.Basic
import TypedClient.Text.Casing

set_option autoImplicit false

namespace TypedClient.Text

theorem CaseRun.bounds_of_covers {r : CaseRun} {code : Nat} (h : r.covers code = true) :
    r.first ≤ code ∧ code ≤ r.last := by
  simp only [covers, Bool.and_eq_true, decide_eq_true_eq] at h
  exact h.1

theorem toNat_ofNat_cases (n : Nat) : (Char.ofNat n).toNat = n ∨ (Char.ofNat n).toNat = 0 := by
  by_cases h : n.isValidChar
  · rw [Char.ofNat, dif_pos h]
    exact .inl rfl
  · rw [Char.ofNat, dif_neg h]
    exact .inr rfl

/-- A small letter of the English alphabet, other than `i`, which begins the small form of a dotted capital, and
`k`, which is the small form of the Kelvin sign. -/
def isPlainSmall (c : Char) : Bool := 0x61 ≤ c.toNat && c.toNat ≤ 0x7A && c.toNat ≠ 0x69 && c.toNat ≠ 0x6B

theorem lowerRuns_range : ∀ r ∈ lowerRuns,
    (r.first = 0x41 ∧ r.last = 0x5A ∧ r.shift = 32) ∨ r.last + r.shift < 0x61 ∨ 0x7A < r.first + r.shift ∨
      (r.first = r.last ∧ r.first + r.shift = 0x6B) := by
  decide +kernel

theorem lowerExpansions_head : ∀ e ∈ lowerExpansions, ∃ rest, e.2.map Char.ofNat = 'i' :: rest := by
  simp [lowerExpansions]

theorem alphabet_forms : ∀ k < 26, lowerChar (Char.ofNat (0x41 + k)) = [Char.ofNat (0x61 + k)] ∧
    lowerChar (Char.ofNat (0x61 + k)) = [Char.ofNat (0x61 + k)] ∧
    upperChar (Char.ofNat (0x61 + k)) = [Char.ofNat (0x41 + k)] ∧
    (Char.ofNat (0x41 + k)).toNat + 32 = (Char.ofNat (0x61 + k)).toNat := by
  decide +kernel

section PlainSmall

variable {c x : Char} {rest xs : List Char} (hx : isPlainSmall x = true)

include hx

theorem exists_alphabet_of_isPlainSmall : ∃ k < 26, x = Char.ofNat (0x61 + k) := by
  simp only [isPlainSmall, Bool.and_eq_true, decide_eq_true_eq] at hx
  refine ⟨x.toNat - 0x61, by omega, ?_⟩
  rw [Nat.add_sub_of_le hx.1.1.1, Char.ofNat_toNat]

theorem upperChar_of_isPlainSmall : ∃ c, upperChar x = [c] ∧ lowerChar c = [x] ∧ c.toNat + 32 = x.toNat := by
  obtain ⟨k, hk, rfl⟩ := exists_alphabet_of_isPlainSmall hx
  obtain ⟨hlow, -, hup, hcode⟩ := alphabet_forms k hk
  exact ⟨_, hup, hlow, hcode⟩

theorem code_of_lowerChar_append (h : lowerChar c ++ rest = x :: xs) :
    (c = x ∨ c.toNat + 32 = x.toNat) ∧ rest = xs := by
  simp only [isPlainSmall, Bool.and_eq_true, decide_eq_true_eq] at hx
  unfold lowerChar mapCase at h
  split at h
  · -- the one expansion begins with `i`
    next e he =>
    obtain ⟨others, hi⟩ := lowerExpansions_head e (List.mem_of_find?_eq_some he)
    rw [hi, List.cons_append, List.cons.injEq] at h
    exact absurd (h.1 ▸ rfl : x.toNat = 0x69) hx.1.2
  · split at h
    · -- a run that leads to the letter is that of the capitals
      next r hr =>
      obtain ⟨hxr, hrest⟩ := List.cons.inj h
      have hrange := lowerRuns_range r (List.mem_of_find?_eq_some hr)
      have hcovers : r.first ≤ c.toNat ∧ c.toNat ≤ r.last :=
        CaseRun.bounds_of_covers (by simpa using List.find?_some hr)
      have hcode := toNat_ofNat_cases ((c.toNat : Int) + r.shift).toNat
      rw [hxr] at hcode
      exact ⟨.inr (by omega), hrest⟩
    · obtain ⟨hxc, hrest⟩ := List.cons.inj h
      exact ⟨.inl hxc, hrest⟩

theorem lowerChar_append_eq_cons_iff :
    lowerChar c ++ rest = x :: xs ↔ (c = x ∨ upperChar x = [c]) ∧ rest = xs := by
  obtain ⟨big, hup, hlow, hbig⟩ := upperChar_of_isPlainSmall hx
  constructor
  · intro h
    obtain ⟨hc, hrest⟩ := code_of_lowerChar_append hx h
    refine ⟨hc.imp_right fun hsum => ?_, hrest⟩
    rw [hup, Char.toNat_inj.mp (show c.toNat = big.toNat by omega)]
  · rintro ⟨rfl | hc, rfl⟩
    · obtain ⟨k, hk, rfl⟩ := exists_alphabet_of_isPlainSmall hx
      rw [(alphabet_forms k hk).2.1]
      rfl
    · rw [List.singleton_inj.mp (hc.symm.trans hup), hlow]
      rfl

theorem uncapitalize_eq_iff {s n : String} (hn : n.toList = x :: xs) :
    uncapitalize s = n ↔ s = n ∨ s = capitalize n := by
  obtain ⟨big, hup, -, -⟩ := upperChar_of_isPlainSmall hx
  have hcap : (capitalize n).toList = big :: xs := by simp [capitalize, hn, hup]
  simp only [← String.toList_inj, hn, hcap]
  unfold uncapitalize
  cases s.toList with
  | nil => simp
  | cons c rest =>
    rw [String.toList_ofList, lowerChar_append_eq_cons_iff hx, hup]
    simp only [List.cons.injEq, and_true, eq_comm (a := big), or_and_right]

end PlainSmall

end TypedClient.Text
