import TypedClient.Json.Parser
import TypedClient.Json.Quote
import TypedClient.Proofs.Halves

set_option autoImplicit false

namespace TypedClient.Json

open Letter (pair?)
open Text (hexDigit hexDigits joinHalves)

/-! ## Digits -/

theorem hexValue?_hexDigit (n : Nat) (h : n < 16) : hexValue? (hexDigit n) = some n := by
  revert n
  decide

theorem length_hexDigits (width n : Nat) : (hexDigits width n).length = width := by
  induction width generalizing n with
  | zero => rfl
  | succ width ih => simp [hexDigits, ih]

theorem unit?_hexDigits {n : Nat} (h : n < 0x10000) (rest : Text) :
    unit? ((hexDigits 4 n).map .char ++ rest) = some (n, rest) := by
  have hdigit : ∀ m, hexValue? (hexDigit (m % 16)) = some (m % 16) := fun m =>
    hexValue?_hexDigit _ (Nat.mod_lt _ (by decide))
  have hsum : ((n / 16 / 16 / 16 % 16 * 16 + n / 16 / 16 % 16) * 16 + n / 16 % 16) * 16 + n % 16 = n := by omega
  simp [hexDigits, unit?, hdigit, hsum]

/-! ## Units -/

def unitText (u : Nat) : Text := (unitEscape u).map .char

/-- No second half can be read at the head of the text, and what looks like a unit there is one. -/
def Detached (tail : Text) : Prop :=
  ∀ more, tail = .char '\\' :: .char 'u' :: more → ∃ v after, unit? more = some (v, after) ∧ isLowHalf v = false

theorem detached_cons {l : Letter} (h : l ≠ .char '\\') (rest : Text) : Detached (l :: rest) := by
  intro more heq
  cases heq
  exact absurd rfl h

theorem readUnits_single {u : Nat} (hu : u < 0x10000) {tail : Text} (hne : tail ≠ [])
    (h : isHighHalf u = true → Detached tail) : readUnits ((hexDigits 4 u).map .char ++ tail) = .ok (u, tail) := by
  have hdrop : ((hexDigits 4 u).map Letter.char ++ tail).drop 4 = tail :=
    List.drop_left' (by rw [List.length_map, length_hexDigits])
  rw [readUnits, hdrop, unit?_hexDigits hu, if_neg (by simpa using hne)]
  dsimp only
  split
  · next hhigh =>
    rw [Bool.and_eq_true] at hhigh
    split
    · next more =>
      obtain ⟨v, after, hunit, hlow⟩ := h hhigh.1 more rfl
      simp [hunit, hlow]
    · rfl
  · rfl

theorem readUnits_pair {u v : Nat} (hu : isHighHalf u = true) (hv : isLowHalf v = true) {tail : Text}
    (hne : tail ≠ []) :
    readUnits ((hexDigits 4 u).map .char ++ (unitText v ++ tail)) = .ok (pairCode u v, tail) := by
  have hu' : u < 0x10000 := by
    simp only [isHighHalf, Bool.and_eq_true, decide_eq_true_eq] at hu
    omega
  have hv' : v < 0x10000 := by
    simp only [isLowHalf, Bool.and_eq_true, decide_eq_true_eq] at hv
    omega
  have hdrop : ((hexDigits 4 u).map Letter.char ++ (unitText v ++ tail)).drop 4 = unitText v ++ tail :=
    List.drop_left' (by rw [List.length_map, length_hexDigits])
  have hdrop' : (unitText v ++ tail).drop 6 = tail :=
    List.drop_left' (by simp [unitText, unitEscape, length_hexDigits])
  rw [readUnits, hdrop, unit?_hexDigits hu', if_neg (by simp [unitText, unitEscape])]
  dsimp only
  rw [hdrop', if_pos (by simp [hu, hne])]
  simp [unitText, unitEscape, unit?_hexDigits hv', hv]

/-! ## The forms of a written letter -/

theorem unitEscapes_cases (l : Letter) :
    (l.code < 0x10000 ∧ unitEscapes l.code = unitEscape l.code)
      ∨ ∃ u v, isHighHalf u = true ∧ isLowHalf v = true ∧ unitEscapes l.code = unitEscape u ++ unitEscape v
        ∧ Letter.ofCode (pairCode u v) = l := by
  rw [unitEscapes]
  split
  · next hlt => exact .inl ⟨hlt, rfl⟩
  · next hge =>
    have hbound : l.code < 0x110000 := by
      cases l with
      | char c =>
        have hrange := Letter.toNat_range c
        simp only [Letter.code]
        omega
      | half h =>
        have hrange := Letter.isHalf_range h.between
        simp only [Letter.code]
        omega
    refine .inr ⟨0xD800 + (l.code - 0x10000) / 0x400, 0xDC00 + (l.code - 0x10000) % 0x400, ?_, ?_, rfl, ?_⟩
    · simp only [isHighHalf, Bool.and_eq_true, decide_eq_true_eq]
      omega
    · simp only [isLowHalf, Bool.and_eq_true, decide_eq_true_eq]
      omega
    · rw [Letter.pairCode_units (by omega), Letter.ofCode_code]

theorem escaped?_range {e c : Char} (h : escaped? e = some c) : 0x20 ≤ e.toNat ∧ e.toNat ≤ 0x7E := by
  unfold escaped? at h
  split at h <;> cases h <;> decide

theorem escape_cases (l : Letter) :
    (∃ e c, l = .char c ∧ escape l = ['\\', e] ∧ e ≠ 'u' ∧ escaped? e = some c)
      ∨ (escape l = unitEscapes l.code ∧ l ≠ .char '"' ∧ l ≠ .char '\\') := by
  unfold escape
  split
  case h_8 hquote hslash _ _ _ _ _ => exact .inr ⟨rfl, hquote, hslash⟩
  all_goals exact .inl ⟨_, _, rfl, rfl, by decide, rfl⟩

theorem Charset.le_of_admits {set : Charset} {l : Letter} (h : set.admits l = true) : 0x20 ≤ l.code := by
  cases set <;> simp only [admits, Bool.and_eq_true, decide_eq_true_eq] at h
  · exact h.2.1
  · exact h.2

theorem Charset.ne_of_admits {set : Charset} {l : Letter} (h : set.admits l = true) :
    l ≠ .char '"' ∧ l ≠ .char '\\' := by
  simp only [admits, Bool.and_eq_true, bne_iff_ne] at h
  exact h.1

theorem Charset.admits_full_half (h : Half) : Charset.full.admits (.half h) = true := by
  have hrange := Letter.isHalf_range h.between
  have hcode : 0x20 ≤ h.code := by omega
  simp [admits, Letter.code, hcode]

theorem Charset.admits_ascii_half (h : Half) : Charset.ascii.admits (.half h) = false := by
  have hrange := Letter.isHalf_range h.between
  have hcode : ¬ h.code ≤ 0x7E := by omega
  simp [admits, Letter.code, hcode]

/-! ## Reading a written letter -/

section Steps

variable {opening : Text} {fuel : Nat} {done tail : Text}

theorem readString_plain {l : Letter} (hquote : l ≠ .char '"') (hslash : l ≠ .char '\\') (hge : 0x20 ≤ l.code) :
    readString opening (fuel + 1) done (l :: tail) = readString opening fuel (l :: done) tail := by
  rw [readString.eq_def]
  split <;> simp_all

theorem readString_letter {e c : Char} (he : e ≠ 'u') (hc : escaped? e = some c) :
    readString opening (fuel + 1) done (.char '\\' :: .char e :: tail)
      = readString opening fuel (.char c :: done) tail := by
  rw [readString.eq_def]
  split <;> simp_all [Letter.char?]

theorem readString_units {u code : Nat} {after : Text}
    (h : readUnits ((hexDigits 4 u).map .char ++ tail) = .ok (code, after)) :
    readString opening (fuel + 1) done (unitText u ++ tail)
      = readString opening fuel (Letter.ofCode code :: done) after := by
  rw [unitText, unitEscape, List.map_cons, List.map_cons, List.cons_append, List.cons_append, readString, h]

/-- A written letter is read back. By its unit alone a high half is read back only where no low half stands
behind it. -/
theorem readString_writeLetter {set : Charset} {l : Letter} (hne : tail ≠ [])
    (h : set.admits l = true ∨ l.isHigh = false ∨ Detached tail) :
    readString opening (fuel + 1) done (writeLetter set l ++ tail) = readString opening fuel (l :: done) tail := by
  cases hadmits : set.admits l with
  | true =>
    obtain ⟨hquote, hslash⟩ := Charset.ne_of_admits hadmits
    rw [writeLetter, if_pos hadmits]
    exact readString_plain hquote hslash (Charset.le_of_admits hadmits)
  | false =>
    rw [writeLetter, if_neg (by simp [hadmits])]
    obtain ⟨e, c, rfl, hescape, he, hc⟩ | ⟨hescape, -⟩ := escape_cases l
    · rw [hescape]
      exact readString_letter he hc
    · obtain ⟨hlt, heq⟩ | ⟨u, v, hu, hv, heq, hcode⟩ := unitEscapes_cases l
      · have hdetached : isHighHalf l.code = true → Detached tail := by
          intro hhigh
          obtain hadmits' | hlow | hdetached := h
          · rw [hadmits'] at hadmits
            cases hadmits
          · cases l with
            | char c => exact absurd hhigh (by simp [Letter.code, (Letter.not_half_toNat c).1])
            | half u => exact absurd hhigh (by simpa [Letter.isHigh, Letter.code] using hlow)
          · exact hdetached
        rw [hescape, heq]
        exact (readString_units (readUnits_single hlt hne hdetached)).trans (by rw [Letter.ofCode_code])
      · rw [hescape, heq, List.map_append, List.append_assoc]
        exact (readString_units (readUnits_pair hu hv hne)).trans (by rw [hcode])

theorem writeLetter_half (h : Half) : writeLetter .ascii (.half h) = unitText h.code := by
  have hrange := Letter.isHalf_range h.between
  rw [writeLetter, if_neg (by simp [Charset.admits_ascii_half])]
  obtain ⟨e, c, heq, -⟩ | ⟨hescape, -⟩ := escape_cases (.half h)
  · cases heq
  · rw [hescape, unitEscapes, if_pos (by simp only [Letter.code]; omega)]
    rfl

theorem readString_pair {a b : Letter} {c : Char} (hpair : pair? a b = some c) (hne : tail ≠ []) :
    readString opening (fuel + 1) done (writeLetter .ascii a ++ (writeLetter .ascii b ++ tail))
      = readString opening fuel (.char c :: done) tail := by
  obtain ⟨u, v, rfl, rfl, hu, hv, rfl⟩ := (Letter.pair?_eq_some_iff a b c).mp hpair
  rw [writeLetter_half, writeLetter_half, readString_units (readUnits_pair hu hv hne), Letter.ofCode_pairCode]

end Steps

theorem detached_writeLetter {a b : Letter} (hhigh : a.isHigh = true) (hpair : pair? a b = none)
    (tail : Text) : Detached (writeLetter .ascii b ++ tail) := by
  cases a with
  | char c => cases hhigh
  | half u =>
    unfold writeLetter
    split
    · next hadmits => exact detached_cons (Charset.ne_of_admits hadmits).2 tail
    · obtain ⟨e, c, rfl, hescape, he, -⟩ | ⟨hescape, -⟩ := escape_cases b
      · intro more heq
        rw [hescape] at heq
        cases heq
        exact absurd rfl he
      · obtain ⟨hlt, heq⟩ | ⟨v, w, hv, -, heq, -⟩ := unitEscapes_cases b
        · intro more hmore
          rw [hescape, heq] at hmore
          cases hmore
          refine ⟨b.code, tail, unit?_hexDigits hlt tail, ?_⟩
          cases b with
          | char c => exact (Letter.not_half_toNat c).2
          | half v => simpa [pair?, Letter.code, show isHighHalf u.code = true from hhigh] using hpair
        · -- a character of two units starts with a high half
          intro more hmore
          rw [hescape, heq, List.map_append, List.append_assoc] at hmore
          cases hmore
          simp only [isHighHalf, Bool.and_eq_true, decide_eq_true_eq] at hv
          refine ⟨v, unitText w ++ tail, unit?_hexDigits (by omega) _, ?_⟩
          simp only [isLowHalf, Bool.and_eq_false_iff, decide_eq_false_iff_not]
          omega

theorem lt_of_escaped? {e c : Char} (h : escaped? e = some c) : c.toNat < 0x80 := by
  unfold escaped? at h
  split at h <;> cases h <;> decide

/-- The two halves of a pair are written as the character that they stand for. -/
theorem writeLetter_pair {a b : Letter} {c : Char} (hpair : pair? a b = some c) :
    writeLetter .ascii (.char c) = writeLetter .ascii a ++ writeLetter .ascii b := by
  obtain ⟨u, v, rfl, rfl, hu, hv, rfl⟩ := (Letter.pair?_eq_some_iff a b c).mp hpair
  have hcode : (Letter.char (Char.ofNat (pairCode u.code v.code))).code = pairCode u.code v.code :=
    Letter.toNat_pairCode hu hv
  have hlarge : 0x10000 ≤ pairCode u.code v.code := by
    unfold pairCode
    omega
  have hadmits : Charset.ascii.admits (.char (Char.ofNat (pairCode u.code v.code))) = false := by
    have hbeyond : ¬ pairCode u.code v.code ≤ 0x7E := by omega
    simp [Charset.admits, hcode, hbeyond]
  rw [writeLetter, if_neg (by simp [hadmits]), writeLetter_half, writeLetter_half]
  obtain ⟨e, c, hchar, -, -, he⟩ | ⟨hescape, -⟩ := escape_cases (.char (Char.ofNat (pairCode u.code v.code)))
  · have hsmall := lt_of_escaped? he
    rw [hchar, Letter.code] at hcode
    omega
  · simp only [isHighHalf, isLowHalf, Bool.and_eq_true, decide_eq_true_eq] at hu hv
    have hfirst : 0xD800 + (pairCode u.code v.code - 0x10000) / 0x400 = u.code := by
      unfold pairCode
      omega
    have hsecond : 0xDC00 + (pairCode u.code v.code - 0x10000) % 0x400 = v.code := by
      unfold pairCode
      omega
    rw [hescape, hcode, unitEscapes, if_neg (by omega), List.map_append, hfirst, hsecond]
    rfl

theorem quoteWith_joinHalves (t : Text) : quoteWith .ascii (joinHalves t) = quoteWith .ascii t := by
  have hwritten : (joinHalves t).flatMap (writeLetter .ascii) = t.flatMap (writeLetter .ascii) := by
    fun_induction joinHalves t with
    | case1 => rfl
    | case2 a => rfl
    | case3 a b t c hpair ih =>
      rw [List.flatMap_cons, List.flatMap_cons, List.flatMap_cons, ih, writeLetter_pair hpair, List.append_assoc]
    | case4 a b t hpair ih => rw [List.flatMap_cons, ih, ← List.flatMap_cons]
  rw [quoteWith, quoteWith, hwritten]

/-! ## Reading a whole string -/

theorem readString_close (opening rest : Text) {fuel : Nat} {done : Text} (h : 0 < fuel) :
    readString opening fuel done (.char '"' :: rest) = .ok (done.reverse, rest) := by
  obtain ⟨fuel, rfl⟩ := Nat.exists_eq_add_one_of_ne_zero (Nat.ne_zero_of_lt h)
  rw [readString]

theorem readString_full (opening rest : Text) {t : Text} {fuel : Nat} {done : Text} (h : t.length < fuel) :
    readString opening fuel done (t.flatMap (writeLetter .full) ++ .char '"' :: rest)
      = .ok (done.reverse ++ t, rest) := by
  induction t generalizing fuel done with
  | nil => simpa using readString_close opening rest h
  | cons l t ih =>
    obtain ⟨fuel, rfl⟩ := Nat.exists_eq_add_one_of_ne_zero (Nat.ne_zero_of_lt h)
    have hread : Charset.full.admits l = true ∨ l.isHigh = false := by
      cases l with
      | char c => exact .inr rfl
      | half u => exact .inl (Charset.admits_full_half u)
    rw [List.flatMap_cons, List.append_assoc,
      readString_writeLetter (by simp) (hread.imp_right .inl), ih (by simpa using h)]
    simp

theorem readString_ascii (opening rest : Text) {t : Text} {fuel : Nat} {done : Text} (h : t.length < fuel) :
    readString opening fuel done (t.flatMap (writeLetter .ascii) ++ .char '"' :: rest)
      = .ok (done.reverse ++ joinHalves t, rest) := by
  -- two halves that meet are written as two letters and read in one step
  fun_induction joinHalves t generalizing fuel done with
  | case1 => simpa using readString_close opening rest h
  | case2 a =>
    obtain ⟨fuel, rfl⟩ := Nat.exists_eq_add_one_of_ne_zero (Nat.ne_zero_of_lt h)
    rw [List.flatMap_singleton, readString_writeLetter (by simp) (.inr (.inr (detached_cons (by decide) rest))),
      readString_close opening rest (by simpa using h), List.reverse_cons]
  | case3 a b t c hpair ih =>
    obtain ⟨fuel, rfl⟩ := Nat.exists_eq_add_one_of_ne_zero (Nat.ne_zero_of_lt h)
    rw [List.flatMap_cons, List.flatMap_cons, List.append_assoc, List.append_assoc,
      readString_pair hpair (by simp), ih (by simp at h; omega)]
    simp
  | case4 a b t hpair ih =>
    obtain ⟨fuel, rfl⟩ := Nat.exists_eq_add_one_of_ne_zero (Nat.ne_zero_of_lt h)
    have hread : Charset.ascii.admits a = true ∨ a.isHigh = false
        ∨ Detached ((b :: t).flatMap (writeLetter .ascii) ++ .char '"' :: rest) := by
      cases hhigh : a.isHigh with
      | false => exact .inr (.inl rfl)
      | true =>
        rw [List.flatMap_cons, List.append_assoc]
        exact .inr (.inr (detached_writeLetter hhigh hpair _))
    rw [List.flatMap_cons, List.append_assoc, readString_writeLetter (by simp) hread, ih (by simpa using h)]
    simp

/-! ## The letters of a written string -/

theorem escape_ne_nil (l : Letter) : escape l ≠ [] := by
  obtain ⟨e, c, -, hescape, -⟩ | ⟨hescape, -⟩ := escape_cases l
  · simp [hescape]
  · obtain ⟨-, heq⟩ | ⟨u, v, -, -, heq, -⟩ := unitEscapes_cases l <;> simp [hescape, heq, unitEscape]

theorem writeLetter_ne_nil (set : Charset) (l : Letter) : writeLetter set l ≠ [] := by
  unfold writeLetter
  split
  · simp
  · exact mt List.map_eq_nil_iff.mp (escape_ne_nil l)

theorem length_le_flatMap_writeLetter (set : Charset) (t : Text) :
    t.length ≤ (t.flatMap (writeLetter set)).length := by
  induction t with
  | nil => exact Nat.le_refl _
  | cons l t ih =>
    have hpos := List.length_pos_of_ne_nil (writeLetter_ne_nil set l)
    rw [List.flatMap_cons, List.length_append, List.length_cons]
    omega

theorem writeLetter_ascii (l : Letter) : writeLetter .ascii l = (writeAscii l).map .char := by
  unfold writeLetter writeAscii
  split
  · next hadmits =>
    cases l with
    | char c => rfl
    | half h => simp [Charset.admits_ascii_half] at hadmits
  · rfl

theorem quoteWith_ascii (t : Text) : quoteWith .ascii t = quote t := by
  have hletters : writeLetter .ascii = fun l => (writeAscii l).map .char := funext writeLetter_ascii
  rw [quoteWith, quote, Text.ofString_ofList, List.map_append, List.map_cons, List.map_flatMap, hletters]
  rfl

theorem hexDigit_range {n : Nat} (h : n < 16) : 0x20 ≤ (hexDigit n).toNat ∧ (hexDigit n).toNat ≤ 0x7E := by
  revert n
  decide

theorem hexDigits_range {width n : Nat} {c : Char} (hc : c ∈ hexDigits width n) :
    0x20 ≤ c.toNat ∧ c.toNat ≤ 0x7E := by
  induction width generalizing n with
  | zero => cases hc
  | succ width ih =>
    rw [hexDigits, List.mem_append] at hc
    obtain hc | hc := hc
    · exact ih hc
    · rw [List.mem_singleton.mp hc]
      exact hexDigit_range (Nat.mod_lt _ (by decide))

theorem unitEscape_range {u : Nat} {c : Char} (hc : c ∈ unitEscape u) : 0x20 ≤ c.toNat ∧ c.toNat ≤ 0x7E := by
  rw [unitEscape, List.mem_cons, List.mem_cons] at hc
  obtain rfl | rfl | hc := hc
  · decide
  · decide
  · exact hexDigits_range hc

theorem escape_range {l : Letter} {c : Char} (hc : c ∈ escape l) : 0x20 ≤ c.toNat ∧ c.toNat ≤ 0x7E := by
  obtain ⟨e, x, -, hescape, -, hx⟩ | ⟨hescape, -⟩ := escape_cases l
  · rw [hescape] at hc
    simp only [List.mem_cons, List.not_mem_nil, or_false] at hc
    obtain rfl | rfl := hc
    · decide
    · exact escaped?_range hx
  · rw [hescape] at hc
    obtain ⟨-, heq⟩ | ⟨u, v, -, -, heq, -⟩ := unitEscapes_cases l
    · rw [heq] at hc
      exact unitEscape_range hc
    · rw [heq, List.mem_append] at hc
      exact hc.elim unitEscape_range unitEscape_range

theorem writeAscii_range {l : Letter} {c : Char} (hc : c ∈ writeAscii l) : 0x20 ≤ c.toNat ∧ c.toNat ≤ 0x7E := by
  unfold writeAscii at hc
  split at hc
  · next hadmits =>
    cases l with
    | char x =>
      obtain rfl : c = x := by simpa [Letter.char?] using hc
      simp only [Charset.admits, Bool.and_eq_true, decide_eq_true_eq] at hadmits
      exact hadmits.2
    | half h => cases hc
  · exact escape_range hc

theorem quote_range {t : Text} {c : Char} (hc : c ∈ (quote t).toList) : 0x20 ≤ c.toNat ∧ c.toNat ≤ 0x7E := by
  rw [quote, String.toList_ofList, List.mem_append, List.mem_cons, List.mem_flatMap, List.mem_singleton] at hc
  obtain (rfl | ⟨l, -, hl⟩) | rfl := hc
  · decide
  · exact writeAscii_range hl
  · decide

example : quote "\"é😀" = "\"\\\"\\u00e9\\ud83d\\ude00\"" := by decide

end TypedClient.Json
