set_option autoImplicit false

/-!
# Texts

A character beyond the first 65536 may be written as a pair of 16-bit units. An escape in a file may name one
half of a pair on its own, which is no character. So the letters of a text are characters and halves. A text
of characters alone is a string; only such a text has an encoding.
-/

namespace TypedClient

def isHighHalf (code : Nat) : Bool := 0xD800 ≤ code && code < 0xDC00

def isLowHalf (code : Nat) : Bool := 0xDC00 ≤ code && code < 0xE000

def isHalf (code : Nat) : Bool := isHighHalf code || isLowHalf code

/-- The code point that a pair stands for. -/
def pairCode (high low : Nat) : Nat := 0x10000 + (high - 0xD800) * 0x400 + (low - 0xDC00)

structure Half where
  code : Nat
  between : isHalf code = true
  deriving DecidableEq, Repr

inductive Letter where
  | char (c : Char)
  | half (h : Half)
  deriving DecidableEq, Repr

namespace Letter

instance : Coe Char Letter := ⟨char⟩

def code : Letter → Nat
  | char c => c.toNat
  | half h => h.code

def ofCode (code : Nat) : Letter :=
  if h : isHalf code = true then half ⟨code, h⟩ else char (Char.ofNat code)

def char? : Letter → Option Char
  | char c => some c
  | half _ => none

def isChar (l : Letter) : Bool := l.char?.isSome

end Letter

abbrev Text := List Letter

namespace Text

@[coe] def ofString (s : String) : Text := s.toList.map .char

instance : Coe String Text := ⟨ofString⟩

@[simp, norm_cast]
theorem ofString_inj {s₁ s₂ : String} : (s₁ : Text) = s₂ ↔ s₁ = s₂ := by
  refine ⟨fun h => String.toList_injective ?_, fun h => h ▸ rfl⟩
  exact (List.map_inj_right fun _ _ => Letter.char.inj).mp h

theorem ofString_injective : Function.Injective ofString := fun _ _ => ofString_inj.mp

theorem ofString_empty : ofString "" = [] := rfl

@[simp]
theorem ofString_append (s₁ s₂ : String) : ofString (s₁ ++ s₂) = (s₁ : Text) ++ (s₂ : Text) := by
  simp [ofString]

@[simp]
theorem ofString_ofList (cs : List Char) : ofString (String.ofList cs) = cs.map .char := by simp [ofString]

@[simp]
theorem char_mem_ofString {c : Char} {s : String} : .char c ∈ (s : Text) ↔ c ∈ s.toList := by simp [ofString]

def string? (t : Text) : Option String := (t.mapM Letter.char?).map String.ofList

/-- Whether a text has an encoding: there are no halves in it. -/
def isWhole (t : Text) : Bool := t.all Letter.isChar

@[simp]
theorem isWhole_ofString (s : String) : isWhole s = true := by simp [isWhole, ofString, Letter.isChar, Letter.char?]

@[simp]
theorem isWhole_append (t₁ t₂ : Text) : isWhole (t₁ ++ t₂) = (isWhole t₁ && isWhole t₂) := by simp [isWhole]

@[simp]
theorem string?_ofString (s : String) : string? s = some s := by
  have hchars (cs : List Char) : (cs.map Letter.char).mapM Letter.char? = some cs := by
    induction cs with
    | nil => rfl
    | cons c rest ih => simp [Letter.char?, ih]
  simp [string?, ofString, hchars]

theorem string?_eq_some_iff {t : Text} {s : String} : string? t = some s ↔ t = s := by
  refine ⟨fun h => ?_, fun h => h ▸ string?_ofString s⟩
  have hletters {t : Text} {cs : List Char} (h : t.mapM Letter.char? = some cs) : t = cs.map .char := by
    induction t generalizing cs with
    | nil =>
      cases h
      rfl
    | cons l rest ih =>
      cases l with
      | char c =>
        simp only [List.mapM_cons, Letter.char?, Option.pure_def, Option.bind_eq_bind, Option.bind_some,
          Option.bind_eq_some_iff, Option.some.injEq] at h
        obtain ⟨ds, hds, rfl⟩ := h
        rw [ih hds, List.map_cons]
      | half h' => simp [Letter.char?] at h
  obtain ⟨cs, hcs, rfl⟩ := Option.map_eq_some_iff.mp h
  rw [hletters hcs, ofString_ofList]

theorem isWhole_iff_exists {t : Text} : isWhole t = true ↔ ∃ s : String, t = s := by
  refine ⟨fun h => ?_, fun ⟨s, h⟩ => h ▸ isWhole_ofString s⟩
  induction t with
  | nil => exact ⟨"", rfl⟩
  | cons l rest ih =>
    obtain ⟨hl, hrest⟩ : l.isChar = true ∧ isWhole rest = true := by simpa [isWhole] using h
    obtain ⟨s, rfl⟩ := ih hrest
    cases l with
    | char c => exact ⟨String.ofList (c :: s.toList), by simp [ofString]⟩
    | half h => simp [Letter.isChar, Letter.char?] at hl

abbrev intercalate (sep : Text) (ts : List Text) : Text := List.intercalate sep ts

theorem intercalate_singleton (sep t : Text) : intercalate sep [t] = t := List.intercalate_singleton

theorem intercalate_cons_cons (sep t u : Text) (ts : List Text) :
    intercalate sep (t :: u :: ts) = t ++ sep ++ intercalate sep (u :: ts) := List.intercalate_cons_cons

/-- The order of code points, letter by letter. -/
def le : Text → Text → Bool
  | [], _ => true
  | _ :: _, [] => false
  | k :: s, l :: t => k.code < l.code || k.code == l.code && le s t

/-- The bytes of a text; one without an encoding has none. -/
def toUTF8 (t : Text) : ByteArray := (t.string?.getD "").toUTF8

@[simp]
theorem toUTF8_ofString (s : String) : toUTF8 s = s.toUTF8 := by simp [toUTF8]

theorem toUTF8_inj {t₁ t₂ : Text} (h₁ : isWhole t₁ = true) (h₂ : isWhole t₂ = true) :
    t₁.toUTF8 = t₂.toUTF8 ↔ t₁ = t₂ := by
  obtain ⟨s₁, rfl⟩ := isWhole_iff_exists.mp h₁
  obtain ⟨s₂, rfl⟩ := isWhole_iff_exists.mp h₂
  rw [toUTF8_ofString, toUTF8_ofString, ofString_inj]
  exact String.toByteArray_inj

end Text

end TypedClient
