import Mathlib.Data.List.Forall2

/-!
Computations that may fail, one after another: each of them has to succeed. What succeeds for the
elements of a list gives a list whose elements are related to them one by one.
-/

namespace Winnow

/-! ### Lists related one by one -/

section Related

variable {α β : Type} {R : α → β → Prop} {xs : List α} {ys : List β}

theorem exists_forall₂ (h : ∀ x ∈ xs, ∃ y, R x y) : ∃ ys, List.Forall₂ R xs ys := by
  induction xs with
  | nil => exact ⟨[], .nil⟩
  | cons x xs ih =>
      obtain ⟨⟨y, hy⟩, hxs⟩ := List.forall_mem_cons.mp h
      obtain ⟨ys, hys⟩ := ih hxs
      exact ⟨y :: ys, .cons hy hys⟩

/-- What is related to a list one by one has something in the list for each of its own. -/
theorem exists_of_forall₂ (h : List.Forall₂ R xs ys) {y : β} (hy : y ∈ ys) : ∃ x, R x y := by
  induction h with
  | nil => cases hy
  | cons h _ ih =>
      rcases List.mem_cons.mp hy with rfl | hy
      · exact ⟨_, h⟩
      · exact ih hy

end Related

/-! ### Results -/

variable {ε α β : Type}

theorem bind_eq_ok {x : Except ε α} {f : α → Except ε β} {b : β} (h : x >>= f = .ok b) :
    ∃ a, x = .ok a ∧ f a = .ok b := by
  cases x with
  | error e => cases h
  | ok a => exact ⟨a, rfl, h⟩

theorem map_eq_ok {x : Except ε α} {f : α → β} {b : β} (h : x.map f = .ok b) :
    ∃ a, x = .ok a ∧ f a = b := by
  cases x with
  | error e => cases h
  | ok a => exact ⟨a, rfl, Except.ok.inj h⟩

theorem eq_ok_of_toOption {x : Except ε α} {a : α} (h : x.toOption = some a) : x = .ok a := by
  cases x with
  | error e => cases h
  | ok a => exact congrArg Except.ok (Option.some.inj h)

theorem exists_eq_ok_of_isSome {x : Except ε α} (h : x.toOption.isSome) : ∃ a, x = .ok a :=
  (Option.isSome_iff_exists.mp h).imp fun _ => eq_ok_of_toOption

theorem mapM_eq_ok_iff {f : α → Except ε β} {xs : List α} {ys : List β} :
    xs.mapM f = .ok ys ↔ List.Forall₂ (fun x y => f x = .ok y) xs ys := by
  induction xs generalizing ys with
  | nil =>
      rw [List.mapM_nil, List.forall₂_nil_left_iff]
      exact ⟨fun h => (Except.ok.inj h).symm, fun h => congrArg Except.ok h.symm⟩
  | cons x rest ih =>
      rw [List.mapM_cons, List.forall₂_cons_left_iff]
      constructor
      · intro h
        obtain ⟨y, hy, h⟩ := bind_eq_ok h
        obtain ⟨others, ho, h⟩ := bind_eq_ok h
        cases h
        exact ⟨y, others, hy, ih.mp ho, rfl⟩
      · rintro ⟨y, others, hy, ho, rfl⟩
        rw [hy, ih.mpr ho]
        rfl

theorem exists_of_mapM {f : α → Except ε β} {xs : List α} {ys : List β} (h : xs.mapM f = .ok ys)
    {x : α} (hx : x ∈ xs) : ∃ y, f x = .ok y :=
  exists_of_forall₂ (mapM_eq_ok_iff.mp h).flip hx

theorem eq_map_of_mapM {f : α → Except ε β} {g : α → β} (h : ∀ x y, f x = .ok y → y = g x)
    {xs : List α} {ys : List β} (mapped : xs.mapM f = .ok ys) : ys = xs.map g := by
  rw [mapM_eq_ok_iff] at mapped
  induction mapped with
  | nil => rfl
  | cons first _ ih => rw [List.map_cons, h _ _ first, ih]

/-- Elements can be replaced by others that give the same. -/
theorem mapM_of_forall₂ {R : α → α → Prop} {f : α → Except ε β} {xs others : List α}
    {ys : List β} (related : List.Forall₂ R xs others) (mapped : xs.mapM f = .ok ys)
    (same : ∀ x x' y, R x x' → f x = .ok y → f x' = .ok y) : others.mapM f = .ok ys := by
  rw [mapM_eq_ok_iff] at mapped ⊢
  induction mapped generalizing others with
  | nil =>
      cases related
      exact .nil
  | cons first _ ih =>
      cases related with
      | cons head tail => exact .cons (same _ _ _ head first) (ih tail)

end Winnow
