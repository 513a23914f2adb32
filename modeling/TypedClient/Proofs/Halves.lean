import Mathlib.Data.List.Chain
import Mathlib.Data.List.TakeWhile
import TypedClient.Text.Utf8

set_option autoImplicit false

namespace TypedClient

namespace Letter

theorem toNat_range (c : Char) : c.toNat < 0xD800 ∨ 0xE000 ≤ c.toNat ∧ c.toNat < 0x110000 := by
  have hvalid := c.valid
  simp only [UInt32.isValidChar, Nat.isValidChar] at hvalid
  have hval : c.val.toNat = c.toNat := rfl
  omega

theorem isHalf_toNat (c : Char) : isHalf c.toNat = false := by
  have h := toNat_range c
  simp only [isHalf, isHighHalf, isLowHalf, Bool.or_eq_false_iff, Bool.and_eq_false_iff, decide_eq_false_iff_not]
  omega

theorem not_half_toNat (c : Char) : isHighHalf c.toNat = false ∧ isLowHalf c.toNat = false :=
  Bool.or_eq_false_iff.mp (isHalf_toNat c)

theorem ofCode_code (l : Letter) : ofCode l.code = l := by
  cases l with
  | char c => simp [ofCode, code, isHalf_toNat, Char.ofNat_toNat]
  | half h => simp [ofCode, code, h.between]

theorem isHalf_range {code : Nat} (h : isHalf code = true) : 0xD800 ≤ code ∧ code < 0xE000 := by
  simp only [isHalf, isHighHalf, isLowHalf, Bool.or_eq_true, Bool.and_eq_true, decide_eq_true_eq] at h
  omega

theorem ofCode_pairCode (high low : Nat) : ofCode (pairCode high low) = char (Char.ofNat (pairCode high low)) := by
  rw [ofCode, dif_neg]
  intro h
  have hrange := isHalf_range h
  unfold pairCode at hrange
  omega

theorem toNat_pairCode {high low : Nat} (hhigh : isHighHalf high = true) (hlow : isLowHalf low = true) :
    (Char.ofNat (pairCode high low)).toNat = pairCode high low := by
  simp only [isHighHalf, isLowHalf, Bool.and_eq_true, decide_eq_true_eq] at hhigh hlow
  have hvalid : (pairCode high low).isValidChar := by
    unfold pairCode
    exact .inr (by omega)
  rw [Char.ofNat, dif_pos hvalid]
  rfl

theorem pairCode_units {code : Nat} (h : 0x10000 ≤ code) :
    pairCode (0xD800 + (code - 0x10000) / 0x400) (0xDC00 + (code - 0x10000) % 0x400) = code := by
  unfold pairCode
  omega

def isHigh : Letter → Bool
  | char _ => false
  | half h => isHighHalf h.code

/-- The character that two letters in a row are read as, when they are the halves of a pair. -/
def pair? : Letter → Letter → Option Char
  | half u, half v =>
    if isHighHalf u.code && isLowHalf v.code then some (Char.ofNat (pairCode u.code v.code)) else none
  | _, _ => none

@[simp]
theorem pair?_char_left (c : Char) (b : Letter) : pair? (char c) b = none := rfl

@[simp]
theorem pair?_char_right (a : Letter) (c : Char) : pair? a (char c) = none := by cases a <;> rfl

theorem pair?_eq_some_iff (a b : Letter) (c : Char) :
    pair? a b = some c ↔ ∃ u v, a = half u ∧ b = half v ∧ isHighHalf u.code = true ∧ isLowHalf v.code = true ∧
      Char.ofNat (pairCode u.code v.code) = c := by
  cases a <;> cases b <;> simp [pair?, and_assoc]

end Letter

namespace Text

open Letter (pair?)

/-- A text with a character for each high half that a low half follows. -/
def joinHalves : Text → Text
  | [] => []
  | [a] => [a]
  | a :: b :: rest =>
    match pair? a b with
    | some c => .char c :: joinHalves rest
    | none => a :: joinHalves (b :: rest)

/-- No high half has a low half behind it. -/
def Unpaired (t : Text) : Prop := t.IsChain fun a b => pair? a b = none

instance (t : Text) : Decidable (Unpaired t) := by unfold Unpaired; infer_instance

theorem length_joinHalves_le (t : Text) : (joinHalves t).length ≤ t.length := by
  fun_induction joinHalves t with
  | case1 => exact Nat.le_refl _
  | case2 a => exact Nat.le_refl _
  | case3 a b rest c hpair ih =>
    simp only [List.length_cons]
    omega
  | case4 a b rest hpair ih =>
    simp only [List.length_cons] at ih ⊢
    omega

theorem joinHalves_eq_self_iff (t : Text) : joinHalves t = t ↔ Unpaired t := by
  fun_induction joinHalves t with
  | case1 => simp [Unpaired]
  | case2 a => simp [Unpaired]
  | case3 a b rest c hpair ih =>
    -- a pair is one character in place of two, so the text becomes shorter
    constructor
    · intro h
      have hlen := congrArg List.length h
      have hle := length_joinHalves_le rest
      simp only [List.length_cons] at hlen
      omega
    · intro h
      simp [Unpaired, hpair] at h
  | case4 a b rest hpair ih => simpa [Unpaired, hpair] using ih

theorem unpaired_cons_cons_iff (a b : Letter) (rest : Text) :
    Unpaired (a :: b :: rest) ↔ pair? a b = none ∧ Unpaired (b :: rest) :=
  List.isChain_cons_cons

theorem unpaired_append_cons_iff (c : Char) (l r : Text) :
    Unpaired (l ++ .char c :: r) ↔ Unpaired l ∧ Unpaired r := by
  simp only [Unpaired, List.isChain_append, List.isChain_cons]
  simp

theorem unpaired_cons_iff (c : Char) (r : Text) : Unpaired (.char c :: r) ↔ Unpaired r := by
  simpa [Unpaired] using unpaired_append_cons_iff c [] r

theorem unpaired_append_iff (s : String) (r : Text) : Unpaired (s ++ r) ↔ Unpaired r := by
  unfold ofString
  induction s.toList with
  | nil => rfl
  | cons c cs ih => rw [List.map_cons, List.cons_append, unpaired_cons_iff, ih]

theorem encodingFault?_eq_none_iff {t : Text} : encodingFault? t = none ↔ isWhole t = true := by
  rw [isWhole, List.all_eq_true, ← List.dropWhile_eq_nil_iff]
  unfold encodingFault?
  split
  · next h => simp [h]
  · next h => simpa using h

/-- What follows a character behind a fault has no part in the fault. -/
theorem encodingFault?_append_cons {t : Text} (h : isWhole t = false) (c : Char) (rest : Text) :
    encodingFault? (t ++ .char c :: rest) = encodingFault? t := by
  have hdrop : t.dropWhile (·.isChar) ≠ [] := by
    intro hnil
    rw [List.dropWhile_eq_nil_iff] at hnil
    exact absurd (List.all_eq_true.mpr hnil) (by simpa [isWhole] using h)
  have hfront : (t ++ .char c :: rest).takeWhile (·.isChar) = t.takeWhile (·.isChar) := by
    rw [List.takeWhile_append, if_neg]
    intro hlength
    have htotal := congrArg List.length (List.takeWhile_append_dropWhile (p := (·.isChar)) (l := t))
    rw [List.length_append] at htotal
    exact hdrop (List.eq_nil_of_length_eq_zero (by omega))
  have hsuffix : (t ++ .char c :: rest).dropWhile (·.isChar) = t.dropWhile (·.isChar) ++ .char c :: rest := by
    rw [List.dropWhile_append, if_neg (by simpa using hdrop)]
  obtain ⟨l, ls, hls⟩ := List.exists_cons_of_ne_nil hdrop
  have hhalves : ((l :: ls) ++ .char c :: rest).takeWhile (! ·.isChar) = (l :: ls).takeWhile (! ·.isChar) := by
    rw [List.takeWhile_append]
    split
    · next hall =>
      rw [(List.takeWhile_prefix _).eq_of_length hall,
        List.takeWhile_cons_of_neg (by simp [Letter.isChar, Letter.char?]),
        List.append_nil]
    · rfl
  unfold encodingFault?
  rw [hfront, hsuffix, hls]
  exact congrArg (fun halves => some (EncodingFault.mk _ (halves.map (·.code)))) hhalves

theorem unpaired_of_isWhole {t : Text} (h : isWhole t = true) : Unpaired t := by
  obtain ⟨s, rfl⟩ := isWhole_iff_exists.mp h
  have hall := unpaired_append_iff s []
  rw [List.append_nil] at hall
  exact hall.mpr List.IsChain.nil

end Text

end TypedClient
