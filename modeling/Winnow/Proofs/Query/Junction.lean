import Winnow.Bookshelf
import Winnow.Proofs.Formula.Selection
import Winnow.Proofs.Predicate.Following

/-!
Junctions as intersections and unions. Every clause of a junction is read with its own arguments,
whatever stands around it, so a junction selects what its clauses select by themselves: the elements
that all of them select, or those that one of them selects.
-/

namespace Winnow

def Clause.IsBuilt (c : Clause) : Prop :=
  ∃ plan : ClausePlan, plan.build = .ok c ∧ ∀ path ∈ plan.formula.paths, isProper path

section Selection

variable {α : Type} [DecidableEq α] {document : α → Json} {elements : List α}
  {kept : Clause → List α} {first : Clause} {others clauses : List Clause}

/-- What is known of a clause that selects some elements by itself. -/
structure Clause.Asserts (document : α → Json) (elements kept : List α) (c : Clause) (f : Formula) :
    Prop where
  writes : c.template.Writes f
  proper : ∀ path ∈ f.paths, isProper path
  holds : ∀ x ∈ elements, (f.predicate none).holds (document x) [] = .ok (decide (x ∈ kept))

theorem Clause.exists_asserts {c : Clause} {kept : List α} (built : c.IsBuilt)
    (alone : (Query.ofTemplate c.template).select document elements = .ok kept) :
    ∃ f, c.Asserts document elements kept f := by
  obtain ⟨plan, hc, proper⟩ := built
  have writes := ClausePlan.writes_of_build hc
  rw [(Query.Writes.ofTemplate writes).select proper] at alone
  exact ⟨plan.formula, writes, proper, eq_decide_of_keepIf alone⟩

/-- The formula of a junction says of an element what its clauses say of it by themselves. -/
theorem Junction.holds_ofCons {fs : List Formula} {f : Formula} (connective : Connective)
    (hf : first.Asserts document elements (kept first) f)
    (ho : List.Forall₂ (fun c g => c.Asserts document elements (kept c) g) others fs) :
    ∀ x ∈ elements, ((Formula.junction connective f fs).predicate none).holds (document x) [] =
      .ok (connective.decides (fun c => decide (x ∈ kept c)) (first :: others)) := by
  intro x hx
  rw [Formula.predicate]
  refine connective.holds_foldl (hf.holds x hx) ?_
  induction ho with
  | nil => exact .nil
  | cons hg _ ih => exact .cons (hg.holds x hx) ih

theorem Junction.select_ofCons (connective : Connective)
    (built : ∀ c ∈ first :: others, c.IsBuilt)
    (alone : ∀ c ∈ first :: others,
      (Query.ofTemplate c.template).select document elements = .ok (kept c)) :
    select document (ofCons connective first others).format
        (ofCons connective first others).template.arguments elements =
      .ok (elements.filter fun x =>
        connective.decides (fun c => decide (x ∈ kept c)) (first :: others)) := by
  have asserted : ∀ c ∈ first :: others, ∃ f, c.Asserts document elements (kept c) f := fun c hc =>
    Clause.exists_asserts (built c hc) (alone c hc)
  obtain ⟨⟨f, hf⟩, asserted⟩ := List.forall_mem_cons.mp asserted
  obtain ⟨fs, ho⟩ := exists_forall₂ asserted
  have asks : (ofCons connective first others).template.Asks (.junction connective f fs) :=
    .junction connective ⟨hf.writes, hf.proper⟩ (ho.imp fun _ _ h => ⟨h.writes, h.proper⟩)
  have selected := asks.select document elements
  rw [keepIf_eq_filter (holds_ofCons connective hf ho)] at selected
  exact ((Query.Writes.ofTemplate asks.writes).select_eq document elements).symm.trans selected

/-- Extending a junction adds clauses at its end. -/
theorem Junction.foldl_extend (connective : Connective) (first : Clause)
    (others more : List Clause) :
    more.foldl extend (ofCons connective first others) =
      ofCons connective first (others ++ more) := by
  induction more generalizing others with
  | nil => rw [List.foldl_nil, List.append_nil]
  | cons c more ih =>
      have extended : (ofCons connective first others).extend c =
          ofCons connective first (others ++ [c]) := rfl
      rw [List.foldl_cons, extended, ih, List.append_assoc, List.singleton_append]

/-- Clauses under a connective select, in their order, the elements that all of them select by
themselves, or those that one of them does. So neither the order of the clauses matters nor how
often one is named, nor whether they are added one by one. -/
theorem Junction.select_ofList (connective : Connective) (nonempty : clauses ≠ [])
    (built : ∀ c ∈ clauses, c.IsBuilt)
    (alone : ∀ c ∈ clauses,
      (Query.ofTemplate c.template).select document elements = .ok (kept c)) :
    ∃ j, ofList connective clauses = .ok j ∧
      select document j.format j.template.arguments elements =
        .ok (elements.filter fun x =>
          connective.decides (fun c => decide (x ∈ kept c)) clauses) ∧
      (∀ others, (∀ c, c ∈ others ↔ c ∈ clauses) →
        ∃ k, ofList connective others = .ok k ∧
          select document k.format k.template.arguments elements =
            select document j.format j.template.arguments elements) ∧
      ∀ first second rest, clauses = first :: second :: rest →
        rest.foldl extend (both connective first second) = j := by
  obtain ⟨first, others, rfl⟩ := List.exists_cons_of_ne_nil nonempty
  have selected := select_ofCons connective built alone
  refine ⟨_, rfl, selected, fun clauses same => ?_, ?_⟩
  · have named : clauses ≠ [] := List.ne_nil_of_mem ((same first).mpr List.mem_cons_self)
    obtain ⟨first', others', rfl⟩ := List.exists_cons_of_ne_nil named
    refine ⟨_, rfl, ?_⟩
    rw [selected, select_ofCons connective (fun c hc => built c ((same c).mp hc))
      fun c hc => alone c ((same c).mp hc)]
    simp only [connective.decides_congr same]
  · rintro first second rest ⟨⟩
    exact foldl_extend connective first [second] rest

end Selection

namespace Bookshelf

def tagLists : List (List String) := [["sci-fi", "epic"], ["classic"], ["epic"], []]

def tagDocument (tags : List String) : Json := .array (tags.map .string)

def tagsEpic : ClausePlan :=
  .subquery (.asking .any .element
    (.clause (.compare .element (.matching .equal (.text "epic") .none))))

def tagsFuture : ClausePlan := .compare .element (.matching .anyEqual (.text "sci-fi") .none)

theorem tagsEpic_tagsFuture_selected :
    ∃ epic future j, tagsEpic.build = .ok epic ∧ tagsFuture.build = .ok future ∧
      Junction.ofList .and [epic, future] = .ok j ∧
      select tagDocument j.format j.template.arguments tagLists = .ok [["sci-fi", "epic"]] := by
  have epicPaths : ∀ path ∈ tagsEpic.formula.paths, isProper path := by decide
  have futurePaths : ∀ path ∈ tagsFuture.formula.paths, isProper path := by decide
  have epic := (Query.Writes.ofTemplate (@ClausePlan.writes_of_build tagsEpic _ rfl)).select
    epicPaths tagDocument tagLists
  have future := (Query.Writes.ofTemplate (@ClausePlan.writes_of_build tagsFuture _ rfl)).select
    futurePaths tagDocument tagLists
  -- Only the clause that asks for an item has a subquery.
  obtain ⟨j, hj, selected, -⟩ := @Junction.select_ofList _ _ tagDocument tagLists
    (fun c =>
      if c.template.height = 0 then [["sci-fi", "epic"]] else [["sci-fi", "epic"], ["epic"]])
    _ .and (List.cons_ne_nil _ _)
    (List.forall_mem_cons.mpr ⟨⟨tagsEpic, rfl, epicPaths⟩,
      List.forall_mem_singleton.mpr ⟨tagsFuture, rfl, futurePaths⟩⟩)
    (List.forall_mem_cons.mpr ⟨epic.trans (by decide +kernel),
      List.forall_mem_singleton.mpr (future.trans (by decide +kernel))⟩)
  exact ⟨_, _, j, rfl, rfl, hj, selected.trans (by decide +kernel)⟩

end Bookshelf

end Winnow
