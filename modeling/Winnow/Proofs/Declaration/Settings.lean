import Winnow.Declaration.Paths
import Winnow.Proofs.Result

/-!
What attributes settle. The entries of all attributes of a name are applied one after another, so it
does not matter over how many attributes they are spread. A field is skipped, or identifies the
entity, exactly if some entry says so, whatever else is said before or after it.
-/

namespace Winnow

def Entry.hasKey (e : Entry) (key : String) : Bool :=
  match e.key with
  | .ok (some found, _) => found == key
  | _ => false

namespace Attribute

variable {σ : Type} {apply : σ → Entry → Except DeriveFault σ} {name : String}
  {attributes : List Attribute} {s s' : σ}

/-- An attribute of a name has an entry with a key. -/
def marks (name key : String) (attributes : List Attribute) : Bool :=
  attributes.any fun a => a.isNamed name &&
    ((a.entries name).toOption.getD []).any (·.hasKey key)

/-- The attributes of a name have entries, one list each. -/
def Lists (name : String) (attributes : List Attribute) (lists : List (List Entry)) : Prop :=
  List.Forall₂ (fun a entries => a.entries name = .ok entries)
    (attributes.filter (·.isNamed name)) lists

theorem exists_lists_of_settings (h : settings name apply s attributes = .ok s') :
    ∃ lists, Lists name attributes lists ∧ lists.flatten.foldlM apply s = .ok s' := by
  rw [settings] at h
  unfold Lists
  generalize attributes.filter (·.isNamed name) = named at h ⊢
  induction named generalizing s with
  | nil =>
      cases h
      exact ⟨[], .nil, rfl⟩
  | cons a rest ih =>
      rw [List.foldlM_cons] at h
      obtain ⟨next, made, h⟩ := bind_eq_ok h
      obtain ⟨entries, found, made⟩ := bind_eq_ok made
      obtain ⟨lists, others, whole⟩ := ih h
      refine ⟨entries :: lists, .cons found others, ?_⟩
      rw [List.flatten_cons, List.foldlM_append, made]
      exact whole

theorem Lists.marks_eq {lists : List (List Entry)} (h : Lists name attributes lists)
    (key : String) : marks name key attributes = lists.flatten.any (·.hasKey key) := by
  have filtered : marks name key attributes = (attributes.filter (·.isNamed name)).any
      fun a => ((a.entries name).toOption.getD []).any (·.hasKey key) := by
    rw [marks, List.any_filter]
  rw [filtered]
  unfold Lists at h
  generalize attributes.filter (·.isNamed name) = named at h ⊢
  induction h with
  | nil => rfl
  | cons found _ ih =>
      rw [List.any_cons, ih, found, List.flatten_cons, List.any_append]
      rfl

section Flag

variable {flag : σ → Bool} {key : String}
  (step : ∀ {s s' : σ} {e : Entry}, apply s e = .ok s' → flag s' = (flag s || e.hasKey key))
include step

theorem flag_of_foldlM {entries : List Entry} (h : entries.foldlM apply s = .ok s') :
    flag s' = (flag s || entries.any (·.hasKey key)) := by
  induction entries generalizing s with
  | nil =>
      cases h
      simp
  | cons e rest ih =>
      rw [List.foldlM_cons] at h
      obtain ⟨next, made, h⟩ := bind_eq_ok h
      rw [ih h, step made, List.any_cons, Bool.or_assoc]

/-- A flag that entries with a key raise, and no others, tells whether an attribute has the key. -/
theorem flag_of_settings (h : settings name apply s attributes = .ok s') :
    flag s' = (flag s || marks name key attributes) := by
  obtain ⟨lists, found, h⟩ := exists_lists_of_settings h
  rw [found.marks_eq key, flag_of_foldlM step h]

end Flag

end Attribute

namespace FieldSettings

variable {s s' : FieldSettings} {e : Entry}

theorem apply_cases (h : s.apply e = .ok s') : ∃ key rest, e.key = .ok (some key, rest) ∧
    (key = "id" ∧ s' = { s with isId := true } ∨ key = "skip" ∧ s' = { s with isSkipped := true } ∨
      key = "rename" ∧ ∃ value rest', e.text rest = .ok (value, rest') ∧
        s' = { s with expression := some value.text }) := by
  obtain ⟨⟨found, rest⟩, key, h⟩ := bind_eq_ok h
  dsimp only at h
  split at h
  · next id =>
      obtain ⟨_, -, h⟩ := bind_eq_ok h
      cases h
      exact ⟨_, rest, id ▸ key, .inl ⟨rfl, rfl⟩⟩
  · split at h
    · next skip =>
        obtain ⟨_, -, h⟩ := bind_eq_ok h
        cases h
        exact ⟨_, rest, skip ▸ key, .inr (.inl ⟨rfl, rfl⟩)⟩
    · split at h
      · next rename =>
          obtain ⟨⟨value, rest'⟩, text, h⟩ := bind_eq_ok h
          obtain ⟨_, -, h⟩ := bind_eq_ok h
          cases h
          exact ⟨_, rest, rename ▸ key, .inr (.inr ⟨rfl, value, rest', text, rfl⟩)⟩
      · cases h

theorem isSkipped_of_apply (h : s.apply e = .ok s') :
    s'.isSkipped = (s.isSkipped || e.hasKey "skip") := by
  obtain ⟨key, rest, found, h⟩ := apply_cases h
  rw [Entry.hasKey, found]
  obtain ⟨rfl, rfl⟩ | ⟨rfl, rfl⟩ | ⟨rfl, _, _, -, rfl⟩ := h <;> simp

theorem isId_of_apply (h : s.apply e = .ok s') : s'.isId = (s.isId || e.hasKey "id") := by
  obtain ⟨key, rest, found, h⟩ := apply_cases h
  rw [Entry.hasKey, found]
  obtain ⟨rfl, rfl⟩ | ⟨rfl, rfl⟩ | ⟨rfl, _, _, -, rfl⟩ := h <;> simp

end FieldSettings

end Winnow
