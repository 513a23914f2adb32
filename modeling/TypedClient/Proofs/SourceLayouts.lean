import TypedClient.Proofs.Settings

set_option autoImplicit false

namespace TypedClient

namespace Data

def Keyed (entries : List (Scalar × Data)) : Prop := entries.Pairwise fun e f => e.1.sameKey f.1 = false

variable {entries others : List (Scalar × Data)}

theorem Keyed.get?_eq_none {e : Scalar × Data} (h : Keyed (e :: entries)) {name : String}
    (hname : e.1.isText name = true) : get? entries name = none := by
  rw [get?, Option.map_eq_none_iff, List.find?_eq_none]
  intro f hf
  have hne := List.rel_of_pairwise_cons h hf
  rw [Scalar.isText_iff.mp hname, Scalar.text_sameKey] at hne
  rw [hne]
  exact Bool.false_ne_true

theorem get?_overlay (h : Keyed others) (entries : List (Scalar × Data)) (name : String) :
    get? (Source.overlay entries others) name = (get? others name).or (get? entries name) := by
  induction others generalizing entries with
  | nil => rfl
  | cons e others ih =>
    rw [Source.overlay, List.foldl_cons, ← Source.overlay, ih h.of_cons, get?_put, get?_cons]
    by_cases hname : e.1.isText name
    · rw [h.get?_eq_none hname]
      simp [hname]
    · simp [hname]

theorem map_put (entries : List (Scalar × Data)) (key : Scalar) (value : Data) :
    (put entries key value).map (·.1) =
      entries.map (·.1) ++ if (entries.map (·.1)).any (·.sameKey key) then [] else [key] := by
  rw [put, List.any_map]
  dsimp only [Function.comp_def]
  split
  · rw [List.map_map, List.append_nil]
    refine List.map_congr_left fun e _ => ?_
    dsimp only [Function.comp_apply]
    split <;> rfl
  · rw [List.map_append, List.map_singleton]

theorem map_overlay (h : Keyed others) (entries : List (Scalar × Data)) :
    (Source.overlay entries others).map (·.1) =
      entries.map (·.1) ++ (others.map (·.1)).filter fun k => ! (entries.map (·.1)).any (·.sameKey k) := by
  induction others generalizing entries with
  | nil => simp [Source.overlay]
  | cons e others ih =>
    have hapart : ∀ k ∈ others.map (·.1), e.1.sameKey k = false :=
      List.forall_mem_map.mpr fun f hf => List.rel_of_pairwise_cons h hf
    rw [Source.overlay, List.foldl_cons, ← Source.overlay, ih h.of_cons, map_put, List.map_cons, List.filter_cons]
    cases hthere : (entries.map (·.1)).any (·.sameKey e.1) with
    | true => simp only [if_true, List.append_nil, Bool.not_true, Bool.false_eq_true, if_false]
    | false =>
      have hrest : ((others.map (·.1)).filter fun k => ! (entries.map (·.1) ++ [e.1]).any (·.sameKey k)) =
          (others.map (·.1)).filter fun k => ! (entries.map (·.1)).any (·.sameKey k) := by
        refine List.filter_congr fun k hk => ?_
        rw [List.any_append, List.any_cons, hapart k hk, List.any_nil, Bool.or_false, Bool.or_false]
      simp only [Bool.false_eq_true, if_false, Bool.not_false, if_true, hrest, List.append_assoc, List.singleton_append]

end Data

namespace Source

open Data (get? put)

def layouts (document settings : List (Scalar × Data)) : List (List (Scalar × Data)) :=
  [put document (.text "generator") (.map settings), put document (.text "config") (.map settings),
    [(.text "config", .map settings), (.text "document", .map document)]]

variable {raw document settings : List (Scalar × Data)}

theorem mapUnder?_put (raw : List (Scalar × Data)) (key name : String) (entries : List (Scalar × Data)) :
    mapUnder? (put raw (.text key) (.map entries)) name = if name = key then some entries else mapUnder? raw name := by
  unfold mapUnder?
  simp only [Data.get?_put_text, Text.ofString_inj]
  by_cases h : name = key
  · rw [if_pos h, if_pos h]
  · rw [if_neg h, if_neg h]

theorem mapUnder?_eq_none {key : String} (h : get? raw key = none) : mapUnder? raw key = none := by
  rw [mapUnder?, h]

theorem rawDocument_put {key : String} (hkey : key ∈ settingsKeys)
    (h : ∀ name ∈ settingsKeys ++ ["document"], get? document name = none) :
    rawDocument (put document (.text key) (.map settings)) = document := by
  have habsent : ∀ name ∈ settingsKeys, ∀ e ∈ document, e.1.isText name = false := by
    intro name hname
    simpa [get?] using h name (List.mem_append_left _ hname)
  have hnone : mapUnder? (put document (.text key) (.map settings)) "document" = none := by
    have hne : "document" ≠ key := by
      rintro rfl
      exact absurd hkey (by decide)
    rw [mapUnder?_put, if_neg hne, mapUnder?_eq_none (h "document" (by decide))]
  have hnew : document.any (·.1.sameKey (.text key)) = false := by
    simp only [Scalar.sameKey_text, List.any_eq_false, Bool.not_eq_true]
    exact habsent key hkey
  have hfound : settingsKeys.any (fun name => (Scalar.text key).isText name) = true :=
    List.any_eq_true.mpr ⟨key, hkey, Scalar.isText_iff.mpr rfl⟩
  have hkeep : document.filter (fun e => ! settingsKeys.any fun name => e.1.isText name) = document := by
    rw [List.filter_eq_self]
    intro e he
    rw [Bool.not_eq_true', List.any_eq_false]
    intro name hname
    simp [habsent name hname e he]
  rw [rawDocument, hnone, put, hnew, if_neg Bool.false_ne_true]
  dsimp only
  rw [List.filter_append, hkeep, List.filter_singleton, hfound, Bool.not_true, cond_false, List.append_nil]

theorem parts_of_mem_layouts (h : ∀ name ∈ settingsKeys ++ ["document"], get? document name = none)
    (hraw : raw ∈ layouts document settings) : rawDocument raw = document ∧ rawSettings raw = settings := by
  have hgenerator : mapUnder? document "generator" = none := mapUnder?_eq_none (h "generator" (by decide))
  simp only [layouts, List.mem_cons, List.not_mem_nil, or_false] at hraw
  obtain rfl | rfl | rfl := hraw
  · refine ⟨rawDocument_put (by decide) h, ?_⟩
    simp only [rawSettings, settingsKeys, List.findSome?_cons, mapUnder?_put, if_true, Option.getD_some]
  · refine ⟨rawDocument_put (by decide) h, ?_⟩
    simp [rawSettings, settingsKeys, mapUnder?_put, hgenerator]
  · exact ⟨rfl, rfl⟩

theorem read_congr {raw' overrides overrides' : List (Scalar × Data)} (hdocument : rawDocument raw = rawDocument raw')
    (hsettings : overlay (rawSettings raw) overrides = overlay (rawSettings raw') overrides') :
    read raw overrides = read raw' overrides' := by
  rw [read, read, hdocument, hsettings]

/-- A document without the keys of the parts of a file and settings are read alike from each layout, or fail alike, and
alike whether entries come from outside or the settings have them. The entries from outside count where both have one,
and come behind the others where only they do. -/
theorem layouts_agree {document : List (Scalar × Data)}
    (h : ∀ name ∈ settingsKeys ++ ["document"], get? document name = none)
    (settings overrides : List (Scalar × Data)) :
    (∀ raw ∈ layouts document settings,
      (∀ raw' ∈ layouts document settings, read raw overrides = read raw' overrides) ∧
      ∀ raw' ∈ layouts document (overlay settings overrides), read raw overrides = read raw' []) ∧
    (Data.Keyed overrides →
      (∀ name, get? (overlay settings overrides) name = (get? overrides name).or (get? settings name)) ∧
      (overlay settings overrides).map (·.1) =
        settings.map (·.1) ++ (overrides.map (·.1)).filter fun k => ! (settings.map (·.1)).any (·.sameKey k)) := by
  constructor
  · intro raw hraw
    obtain ⟨hdocument, hsettings⟩ := parts_of_mem_layouts h hraw
    constructor
    · intro raw' hraw'
      obtain ⟨hdocument', hsettings'⟩ := parts_of_mem_layouts h hraw'
      exact read_congr (hdocument.trans hdocument'.symm) (by rw [hsettings, hsettings'])
    · intro raw' hraw'
      obtain ⟨hdocument', hsettings'⟩ := parts_of_mem_layouts h hraw'
      refine read_congr (hdocument.trans hdocument'.symm) ?_
      rw [hsettings, hsettings']
      rfl
  · intro hkeyed
    exact ⟨fun name => Data.get?_overlay hkeyed settings name, Data.map_overlay hkeyed settings⟩

def bareDocument : List (Scalar × Data) := [(.text "mappings", .list [])]

def straySettings : List (Scalar × Data) := [(.text "bogus", .null), (.text "client_name", .text "Store")]

/-- One entry is for a name that the settings have, the other has one more key that is none of settings. -/
def strayOverrides : List (Scalar × Data) := [(.text "extra", .null), (.text "client_name", .text "Shop")]

theorem stray_keys_reported :
    (∀ name ∈ settingsKeys ++ ["document"], get? bareDocument name = none) ∧ Data.Keyed strayOverrides ∧
      (∀ raw ∈ layouts bareDocument straySettings, read raw strayOverrides =
        .error (.settings [⟨[.key "bogus"], .unknownKey⟩, ⟨[.key "extra"], .unknownKey⟩])) ∧
      get? (overlay straySettings strayOverrides) "client_name" = some (.text "Shop") := by
  have habsent : ∀ name ∈ settingsKeys ++ ["document"], get? bareDocument name = none := by
    simp [settingsKeys, get?, bareDocument, Scalar.isText]
  have hkeyed : Data.Keyed strayOverrides := by simp [Data.Keyed, strayOverrides, Scalar.sameKey]
  obtain ⟨hread, hoverlay⟩ := layouts_agree habsent straySettings strayOverrides
  refine ⟨habsent, hkeyed, fun raw hraw => ?_, ((hoverlay hkeyed).1 "client_name").trans rfl⟩
  have hlast : [(.text "config", .map straySettings), (.text "document", .map bareDocument)] ∈
      layouts bareDocument straySettings := by
    simp [layouts]
  rw [(hread raw hraw).1 _ hlast]
  decide +kernel

end Source

end TypedClient
