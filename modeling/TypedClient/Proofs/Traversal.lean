import Mathlib.Data.List.Forall2

set_option autoImplicit false

namespace TypedClient

variable {ε α β γ : Type}

theorem except_map_eq_ok_iff (f : α → β) (r : Except ε α) (b : β) :
    r.map f = .ok b ↔ ∃ a, r = .ok a ∧ f a = b := by
  cases r <;> simp [Except.map]

theorem except_map_eq_error_iff (f : α → β) (r : Except ε α) (c : ε) :
    r.map f = .error c ↔ r = .error c := by
  cases r <;> simp [Except.map]

theorem except_bind_eq_ok_iff (r : Except ε α) (f : α → Except ε β) (b : β) :
    (r >>= f) = .ok b ↔ ∃ a, r = .ok a ∧ f a = .ok b := by
  cases r <;> simp [bind, Except.bind]

theorem except_bind_eq_error_iff (r : Except ε α) (f : α → Except ε β) (c : ε) :
    (r >>= f) = .error c ↔ r = .error c ∨ ∃ a, r = .ok a ∧ f a = .error c := by
  cases r <;> simp [bind, Except.bind]

theorem mapM_eq_ok_iff (f : α → Except ε β) (xs : List α) (ys : List β) :
    xs.mapM f = .ok ys ↔ List.Forall₂ (fun x y => f x = .ok y) xs ys := by
  induction xs generalizing ys with
  | nil => simp [pure, Except.pure, eq_comm]
  | cons x xs ih =>
    simp only [List.mapM_cons, except_bind_eq_ok_iff, pure, Except.pure, Except.ok.injEq, ih,
      List.forall₂_cons_left_iff]
    constructor
    · rintro ⟨y, hy, zs, hzs, rfl⟩
      exact ⟨y, zs, hy, hzs, rfl⟩
    · rintro ⟨y, zs, hy, hzs, rfl⟩
      exact ⟨y, hy, zs, hzs, rfl⟩

theorem mapM_eq_error {f : α → Except ε β} {xs : List α} {c : ε} (h : xs.mapM f = .error c) :
    ∃ x ∈ xs, f x = .error c := by
  induction xs with
  | nil => simp [pure, Except.pure] at h
  | cons x xs ih =>
    simp only [List.mapM_cons, except_bind_eq_error_iff, pure, Except.pure] at h
    rcases h with hx | ⟨_, _, hxs | ⟨_, _, hnever⟩⟩
    · exact ⟨x, by simp, hx⟩
    · obtain ⟨z, hz, hc⟩ := ih hxs
      exact ⟨z, by simp [hz], hc⟩
    · cases hnever

theorem forall₂_exists_right {R : α → β → Prop} {xs : List α} {ys : List β} (h : List.Forall₂ R xs ys)
    {x : α} (hx : x ∈ xs) : ∃ y ∈ ys, R x y := by
  induction h with
  | nil => cases hx
  | cons hr _ ih =>
    rcases List.mem_cons.mp hx with rfl | hx
    · exact ⟨_, by simp, hr⟩
    · obtain ⟨y, hy, hxy⟩ := ih hx
      exact ⟨y, by simp [hy], hxy⟩

theorem forall₂_exists_left {R : α → β → Prop} {xs : List α} {ys : List β} (h : List.Forall₂ R xs ys)
    {y : β} (hy : y ∈ ys) : ∃ x ∈ xs, R x y :=
  forall₂_exists_right h.flip hy

theorem map_eq_of_forall₂ {R : α → β → Prop} {f : α → γ} {g : β → γ} {xs : List α}
    {ys : List β} (h : List.Forall₂ R xs ys) (hr : ∀ x y, R x y → g y = f x) : ys.map g = xs.map f := by
  induction h with
  | nil => rfl
  | cons hxy _ ih => rw [List.map_cons, List.map_cons, hr _ _ hxy, ih]

theorem mapM_isOk_iff (f : α → Except ε β) (xs : List α) :
    (∃ ys, xs.mapM f = .ok ys) ↔ ∀ x ∈ xs, ∃ y, f x = .ok y := by
  constructor
  · rintro ⟨ys, h⟩ x hx
    obtain ⟨y, -, hy⟩ := forall₂_exists_right ((mapM_eq_ok_iff f xs ys).mp h) hx
    exact ⟨y, hy⟩
  · intro h
    cases hm : xs.mapM f with
    | ok ys => exact ⟨ys, rfl⟩
    | error c =>
      obtain ⟨x, hx, hc⟩ := mapM_eq_error hm
      obtain ⟨y, hy⟩ := h x hx
      cases hc.symm.trans hy

end TypedClient
