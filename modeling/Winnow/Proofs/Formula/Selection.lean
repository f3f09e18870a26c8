import Winnow.Proofs.Formula.Translation

/-!
What a condition selects. The elements for which a test holds are kept in their order, so a
selection is known from what is said of each element. What is said under a connective follows from
what each condition says by itself.
-/

namespace Winnow

/-! ### Elements that are kept -/

section Kept

variable {α : Type} {test : α → Except QueryFault Bool} {xs kept : List α}

theorem keepIf_congr {test' : α → Except QueryFault Bool} (h : ∀ x ∈ xs, test x = test' x) :
    keepIf test xs = keepIf test' xs := by
  induction xs with
  | nil => rfl
  | cons x rest ih =>
      rw [keepIf, keepIf, h x List.mem_cons_self, ih fun y hy => h y (List.mem_cons_of_mem x hy)]

/-- Where every element is decided, those that are decided upon are kept in their order. -/
theorem keepIf_eq_filter {chosen : α → Bool} (h : ∀ x ∈ xs, test x = .ok (chosen x)) :
    keepIf test xs = .ok (xs.filter chosen) := by
  induction xs with
  | nil => rfl
  | cons x rest ih =>
      rw [keepIf, h x List.mem_cons_self]
      simp only [ih fun y hy => h y (List.mem_cons_of_mem x hy), List.filter_cons]

/-- Every element is decided where elements are kept, and kept if it is decided upon. -/
theorem exists_chosen_of_keepIf (h : keepIf test xs = .ok kept) :
    ∃ chosen : α → Bool, kept = xs.filter chosen ∧ ∀ x ∈ xs, test x = .ok (chosen x) := by
  have decided : ∀ x ∈ xs, test x = .ok ((test x).toOption.getD false) := by
    induction xs generalizing kept with
    | nil => simp
    | cons x rest ih =>
        rw [keepIf] at h
        split at h
        · cases h
        · next hx =>
            split at h
            · cases h
            · next hr => exact List.forall_mem_cons.mpr ⟨by rw [hx]; rfl, ih hr⟩
  refine ⟨_, ?_, decided⟩
  rw [keepIf_eq_filter decided] at h
  exact (Except.ok.inj h).symm

/-- Elements are kept by whether they are decided upon. -/
theorem keepIf_eq_filter_iff {chosen : α → Bool} :
    keepIf test xs = .ok (xs.filter chosen) ↔ ∀ x ∈ xs, test x = .ok (chosen x) := by
  refine ⟨fun h x hx => ?_, keepIf_eq_filter⟩
  obtain ⟨decided, same, ht⟩ := exists_chosen_of_keepIf h
  have kept : x ∈ xs.filter chosen ↔ x ∈ xs.filter decided := by rw [same]
  rw [ht x hx, Except.ok.injEq, Bool.eq_iff_iff]
  simpa [List.mem_filter, hx] using kept.symm

theorem length_le_of_keepIf (h : keepIf test xs = .ok kept) : kept.length ≤ xs.length := by
  obtain ⟨chosen, rfl, -⟩ := exists_chosen_of_keepIf h
  exact List.length_filter_le chosen xs

theorem keepIf_singleton {x : α} {b : Bool} (h : test x = .ok b) :
    keepIf test [x] = .ok (if b then [x] else []) := by
  simp [keepIf, h]

/-- An element is decided by whether it is among those that are kept. -/
theorem eq_decide_of_keepIf [DecidableEq α] (h : keepIf test xs = .ok kept) :
    ∀ x ∈ xs, test x = .ok (decide (x ∈ kept)) := by
  obtain ⟨chosen, rfl, decided⟩ := exists_chosen_of_keepIf h
  intro x hx
  simp [decided x hx, List.mem_filter, hx]

end Kept

/-! ### Conditions under a connective -/

namespace Connective

/-- What is said of some things under a connective: something of all of them, or of one. -/
def decides {β : Type} (test : β → Bool) (xs : List β) : Connective → Bool
  | and => xs.all test
  | or => xs.any test

variable {β : Type} {test : β → Bool} {element : Json} {scope : Scope}

/-- It is the things that count, not their order nor how often they are named. -/
theorem decides_congr {xs ys : List β} (c : Connective) (h : ∀ x, x ∈ xs ↔ x ∈ ys) :
    c.decides test xs = c.decides test ys := by
  rw [Bool.eq_iff_iff]
  cases c <;> simp only [decides, List.all_eq_true, List.any_eq_true, h]

theorem holds_predicate {p q : Predicate} {a b : Bool} (c : Connective)
    (hp : p.holds element scope = .ok a) (hq : q.holds element scope = .ok b) :
    (c.predicate p q).holds element scope = .ok (c.decides id [a, b]) := by
  cases c <;> cases a <;> simp [predicate, Predicate.holds, hp, hq, decides]

/-- Predicates under a connective say what the connective makes of what each of them says. -/
theorem holds_foldl {p : Predicate} {ps : List Predicate} {y : β} {ys : List β} (c : Connective)
    (hp : p.holds element scope = .ok (test y))
    (hps : List.Forall₂ (fun p y => p.holds element scope = .ok (test y)) ps ys) :
    (ps.foldl c.predicate p).holds element scope = .ok (c.decides test (y :: ys)) := by
  -- What was said so far is one answer, which comes before the answers that are left.
  suffices h : ∀ {p a}, p.holds element scope = .ok a →
      (ps.foldl c.predicate p).holds element scope = .ok (c.decides id (a :: ys.map test)) by
    rw [h hp]
    cases c <;> simp [decides]
  clear hp
  intro p a hp
  induction hps generalizing p a with
  | nil =>
      rw [List.foldl_nil, hp]
      cases c <;> simp [decides]
  | cons hq _ ih =>
      rw [List.foldl_cons, ih (c.holds_predicate hp hq)]
      cases c <;> simp [decides, Bool.and_assoc, Bool.or_assoc]

end Connective

/-! ### Queries -/

/-- A query that asks something is handed over as it stands. -/
theorem Query.Writes.select_eq {α : Type} {q : Query} {f : Formula} (h : q.Writes f)
    (document : α → Json) (elements : List α) :
    q.select document elements = Winnow.select document q.format q.arguments elements := by
  rw [Query.select, handOver, h.isEmpty]
  rfl

/-- A query of proper paths selects the elements that its formula holds of. -/
theorem Query.Writes.select {α : Type} {q : Query} {f : Formula} (h : q.Writes f)
    (proper : ∀ path ∈ f.paths, isProper path) (document : α → Json) (elements : List α) :
    q.select document elements =
      keepIf (fun x => (f.predicate none).holds (document x) []) elements := by
  rw [h.select_eq, Winnow.select, h.format, h.arguments, Formula.ofText_outline proper h.finite]

/-- A template asks a formula of proper paths. -/
structure Template.Asks (t : Template) (f : Formula) : Prop where
  writes : t.Writes f
  proper : ∀ path ∈ f.paths, isProper path

namespace Template.Asks

theorem select {α : Type} {t : Template} {f : Formula} (h : t.Asks f) (document : α → Json)
    (elements : List α) :
    (Query.ofTemplate t).select document elements =
      keepIf (fun x => (f.predicate none).holds (document x) []) elements :=
  (Query.Writes.ofTemplate h.writes).select h.proper document elements

theorem compare {path : KeyPath} (proper : isProper path.raw) (c : Comparison) :
    (Clause.compare path c).template.Asks (.leaf (.compare path.raw c)) :=
  ⟨.compare path.raw c, List.forall_mem_singleton.mpr proper⟩

theorem junction (connective : Connective) {first : Clause} {others : List Clause} {f : Formula}
    {fs : List Formula} (hf : first.template.Asks f)
    (ho : List.Forall₂ (fun c f => c.template.Asks f) others fs) :
    (Junction.ofCons connective first others).template.Asks (.junction connective f fs) where
  writes := .junction connective hf.writes (ho.imp fun _ _ h => h.writes)
  proper := by
    refine Formula.forall_mem_paths_junction.mpr ⟨hf.proper, fun g hg => ?_⟩
    obtain ⟨c, hc⟩ := exists_of_forall₂ ho hg
    exact hc.proper

theorem subquery (quantifier : Quantifier) {collection : KeyPath} (proper : isProper collection.raw)
    {inner : Condition} {f : Formula} (h : inner.template.Asks f) :
    (Subquery.asking quantifier collection inner).template.Asks
      (.subquery quantifier collection.raw f) :=
  ⟨.subquery quantifier collection h.writes, List.forall_mem_cons.mpr ⟨proper, h.proper⟩⟩

end Template.Asks

end Winnow
