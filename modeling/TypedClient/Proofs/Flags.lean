import TypedClient.CommandLine.Options

set_option autoImplicit false

namespace TypedClient.CommandLine

namespace Options

/-- A change of the options that every word passes by. -/
structure Passable (mark : Options → Options) : Prop where
  raise (o : Options) (f : Flag) : (mark o).raise f = (o.raise f).map mark
  withValue (o : Options) (value : String) (f : Flag) : (mark o).withValue value f = mark (o.withValue value f)
  schema (o : Options) : (mark o).schema = o.schema

variable {mark : Options → Options}

theorem Passable.raiseAll (h : Passable mark) (o : Options) (flags : List Flag) :
    (mark o).raiseAll flags = (o.raiseAll flags).map mark := by
  induction flags generalizing o with
  | nil => rfl
  | cons f rest ih =>
    rw [Options.raiseAll, Options.raiseAll, h.raise]
    cases o.raise f with
    | error e => rfl
    | ok o' => exact ih o'

theorem Passable.set (h : Passable mark) (o : Options) (value : String) (f : Flag) :
    (mark o).set value f = (o.set value f).map mark := by
  rw [Options.set, Options.set, h.withValue]
  split <;> rfl

theorem Passable.valued (h : Passable mark) (o : Options) (flags : List Flag) (value : String) (f : Flag) :
    ((mark o).raiseAll flags).bind (·.set value f) = ((o.raiseAll flags).bind (·.set value f)).map mark := by
  rw [h.raiseAll]
  cases o.raiseAll flags with
  | error e => rfl
  | ok o' => exact h.set o' value f

theorem Passable.takeAll (h : Passable mark) (o : Options) (strangers : List String) (ws : List Word) :
    (mark o).takeAll strangers ws = (o.takeAll strangers ws).map (Prod.map mark id) := by
  fun_induction Options.takeAll o strangers ws with
  | case1 o strangers => rfl
  | case2 o strangers t rest ih | case3 o strangers t rest ih | case4 o strangers rest ih =>
    rw [Options.takeAll, ih]
  | case5 o strangers f isShort attached rest e hflags =>
    simp only [Options.takeAll, hflags]
    rfl
  | case6 o strangers f isShort attached flags rest e hraised hflags =>
    simp only [Options.takeAll, hflags, h.raiseAll, hraised, Except.map]
  | case7 o strangers f isShort attached flags rest o' hraised hflags ih =>
    simp only [Options.takeAll, hflags, h.raiseAll, hraised, Except.map]
    exact ih
  | case8 o strangers f isShort attached flags g value rest e hvalued hflags
  | case10 o strangers f isShort attached flags g value rest e hvalued hflags =>
    simp only [Options.takeAll, hflags, h.valued, hvalued, Except.map]
  | case9 o strangers f isShort attached flags g value rest o' hvalued hflags ih
  | case11 o strangers f isShort attached flags g value rest o' hvalued hflags ih =>
    simp only [Options.takeAll, hflags, h.valued, hvalued, Except.map]
    exact ih
  | case12 o strangers f isShort attached rest flags g htext hflags =>
    cases rest with
    | nil =>
      simp only [Options.takeAll, hflags]
      rfl
    | cons w rest =>
      cases w with
      | text value => exact absurd rfl (htext value rest)
      | flag _ _ _ | stranger _ | marker =>
        simp only [Options.takeAll, hflags]
        rfl

theorem ofWords_eq_ok_iff {words : List String} {o : Options} {given : String} :
    ofWords words = .ok (o, given) ↔ ∃ ws, classify words = .ok ws ∧
      ({} : Options).takeAll [] ws = .ok (o, []) ∧ o.schema = some given := by
  constructor
  · intro h
    unfold ofWords at h
    split at h
    · cases h
    · next ws hclassify =>
      split at h
      · cases h
      · next o' strangers htaken =>
        split at h
        · cases h
        · next path hschema =>
          split at h
          · next hempty =>
            cases h
            rw [List.isEmpty_iff.mp hempty] at htaken
            exact ⟨ws, hclassify, htaken, hschema⟩
          · cases h
  · rintro ⟨ws, hclassify, htaken, hschema⟩
    simp only [ofWords, hclassify, htaken, hschema, List.isEmpty_nil, if_true]

theorem Passable.ofWords_cons (h : Passable mark) {word : String} {f : Flag} (hdashes : word ≠ "--")
    (hword : Word.ofText word = .ok (.flag f false none)) (hvalue : f.takesValue = false)
    (hmark : ({} : Options).raise f = .ok (mark {})) {words : List String} {o : Options} {given : String}
    (hwords : ofWords words = .ok (o, given)) : ofWords (word :: words) = .ok (mark o, given) := by
  obtain ⟨ws, hclassify, htaken, hschema⟩ := ofWords_eq_ok_iff.mp hwords
  refine ofWords_eq_ok_iff.mpr ⟨.flag f false none :: ws, ?_, ?_, ?_⟩
  · simp only [classify, hword, hclassify]
  · simp only [Options.takeAll, flagsOf, hvalue, Bool.false_eq_true, if_false, Options.raiseAll, hmark, h.takeAll,
      htaken]
    rfl
  · rw [h.schema, hschema]

theorem passable_validateOnly : Passable fun o => { o with validateOnly := true } where
  raise o f := by cases f <;> rfl
  withValue o value f := by cases f <;> rfl
  schema _ := rfl

theorem passable_dryRun : Passable fun o => { o with dryRun := true } where
  raise o f := by cases f <;> rfl
  withValue o value f := by cases f <;> rfl
  schema _ := rfl

variable {words : List String} {o : Options} {given : String}

theorem ofWords_validateOnly (h : ofWords words = .ok (o, given)) :
    ofWords ("--validate-only" :: words) = .ok ({ o with validateOnly := true }, given) :=
  passable_validateOnly.ofWords_cons (by decide) rfl rfl rfl h

theorem ofWords_dryRun (h : ofWords words = .ok (o, given)) :
    ofWords ("--dry-run" :: words) = .ok ({ o with dryRun := true }, given) :=
  passable_dryRun.ofWords_cons (by decide) rfl rfl rfl h

end Options

end TypedClient.CommandLine
