import Winnow.Proofs.Query.Junction

/-!
Queries under connectives. The empty query vanishes wherever it stands in a tree of queries, so
filters that are left out need no case of their own. What is left selects the elements for which the
tree holds of what its leaves select by themselves, whatever the brackets are.
-/

namespace Winnow

namespace Query

/-- A query that is built over proper paths: empty, constant, of a condition, or combined. -/
def IsBuilt (q : Query) : Prop :=
  ∃ plan : QueryPlan, plan.build = .ok q ∧ ∀ path ∈ plan.formula.paths, isProper path

theorem IsBuilt.cases {q : Query} (h : q.IsBuilt) :
    q = .empty ∨ ∃ f, q.Writes f ∧ ∀ path ∈ f.paths, isProper path := by
  obtain ⟨plan, hq, proper⟩ := h
  have asks := QueryPlan.asks_of_build hq
  unfold QueryPlan.formula at proper
  cases hf : plan.formula? with
  | none =>
      rw [hf] at asks
      exact .inl asks
  | some f =>
      rw [hf] at asks proper
      exact .inr ⟨f, asks, proper⟩

theorem IsBuilt.eq_empty {q : Query} (h : q.IsBuilt) (hq : q.isEmpty) : q = .empty := by
  refine h.cases.resolve_right ?_
  rintro ⟨f, writes, -⟩
  simp [writes.isEmpty] at hq

theorem IsBuilt.writes {q : Query} (h : q.IsBuilt) (hq : q.isEmpty = false) :
    ∃ f, q.Writes f ∧ ∀ path ∈ f.paths, isProper path := by
  refine h.cases.resolve_left ?_
  rintro rfl
  cases hq

variable {p q : Query} (connective : Connective)

theorem combine_empty : combine connective p .empty = p := rfl

theorem empty_combine (hq : q.isEmpty = false) : combine connective .empty q = q := by
  rw [combine, hq]
  rfl

/-- Only what is put together of two queries that ask something is new. -/
theorem combine_of_not_isEmpty (hp : p.isEmpty = false) (hq : q.isEmpty = false) :
    combine connective p q =
      ⟨"(" ++ p.format ++ connective.separator ++ q.format ++ ")", p.arguments ++ q.arguments⟩ := by
  rw [combine, hp, hq]
  rfl

theorem IsBuilt.combine (hp : p.IsBuilt) (hq : q.IsBuilt) :
    (combine connective p q).IsBuilt := by
  obtain ⟨left, hl, properLeft⟩ := hp
  obtain ⟨right, hr, properRight⟩ := hq
  refine ⟨.combine connective left right, by rw [QueryPlan.build, hl, hr], ?_⟩
  unfold QueryPlan.formula at properLeft properRight ⊢
  rw [QueryPlan.formula?]
  cases hf : left.formula? with
  | none =>
      rw [Formula.combine?]
      exact properRight
  | some f =>
      cases hg : right.formula? with
      | none => simpa [Formula.combine?, hf] using properLeft
      | some g =>
          simp only [hf, hg, Option.getD_some] at properLeft properRight
          simpa [Formula.combine?, Formula.paths, Formula.pathsOfAll] using
            List.forall_mem_append.mpr ⟨properLeft, properRight⟩

theorem arguments_combine (hp : p.IsBuilt) (hq : q.IsBuilt) :
    (Query.combine connective p q).arguments = p.arguments ++ q.arguments := by
  cases eq : q.isEmpty with
  | true => rw [hq.eq_empty eq, combine_empty, empty, List.append_nil]
  | false =>
      cases ep : p.isEmpty with
      | true => rw [hp.eq_empty ep, empty_combine connective eq, empty, List.nil_append]
      | false => rw [combine_of_not_isEmpty connective ep eq]

theorem isEmpty_combine (hp : p.isEmpty = false) (hq : q.isEmpty = false) :
    (Query.combine connective p q).isEmpty = false := by
  rw [combine_of_not_isEmpty connective hp hq]
  simp [isEmpty]

variable {α : Type} {document : α → Json} {elements : List α} {a b : α → Bool}

/-- Two queries that ask something select together what follows from what each selects by itself. -/
theorem select_combine (hp : p.IsBuilt) (hq : q.IsBuilt) (ep : p.isEmpty = false)
    (eq : q.isEmpty = false) (sp : p.select document elements = .ok (elements.filter a))
    (sq : q.select document elements = .ok (elements.filter b)) :
    (Query.combine connective p q).select document elements =
      .ok (elements.filter fun x => connective.decides id [a x, b x]) := by
  -- What each side selects says what its formula says of each element, and the two formulas are
  -- read together.
  obtain ⟨f, hf, properLeft⟩ := hp.writes ep
  obtain ⟨g, hg, properRight⟩ := hq.writes eq
  have proper : ∀ path ∈ (Formula.junction connective f [g]).paths, isProper path := by
    simpa [Formula.paths, Formula.pathsOfAll] using
      List.forall_mem_append.mpr ⟨properLeft, properRight⟩
  rw [hf.select properLeft, keepIf_eq_filter_iff] at sp
  rw [hg.select properRight, keepIf_eq_filter_iff] at sq
  rw [(hf.combine connective hg).select proper, keepIf_eq_filter_iff]
  exact fun x hx => connective.holds_predicate (sp x hx) (sq x hx)

end Query

inductive QueryTree where
  | leaf (q : Query)
  | combine (connective : Connective) (left right : QueryTree)

namespace QueryTree

def query : QueryTree → Query
  | leaf q => q
  | combine connective left right => .combine connective left.query right.query

def leaves : QueryTree → List Query
  | leaf q => [q]
  | combine _ left right => left.leaves ++ right.leaves

/-- A tree without its empty queries. Nothing is left if all of them are empty. -/
def pruned? : QueryTree → Option QueryTree
  | leaf q => if q.isEmpty then none else some (leaf q)
  | combine connective left right => Option.merge (combine connective) left.pruned? right.pruned?

/-- What a tree says if its queries say something. -/
def decides (test : Query → Bool) : QueryTree → Bool
  | leaf q => test q
  | combine connective left right =>
    connective.decides id [left.decides test, right.decides test]

/-- A query is that of a tree that asks something, or it is empty. -/
def Yields (q : Query) : Option QueryTree → Prop
  | none => q = .empty
  | some tree => tree.query = q ∧ q.isEmpty = false

theorem isBuilt_query {tree : QueryTree} (built : ∀ q ∈ tree.leaves, q.IsBuilt) :
    tree.query.IsBuilt := by
  induction tree with
  | leaf q => exact built q List.mem_cons_self
  | combine connective left right ihl ihr =>
      obtain ⟨hl, hr⟩ := List.forall_mem_append.mp built
      exact (ihl hl).combine connective (ihr hr)

theorem Yields.merge {p q : Query} {left? right? : Option QueryTree} (connective : Connective)
    (hl : Yields p left?) (hr : Yields q right?) :
    Yields (.combine connective p q) (Option.merge (combine connective) left? right?) := by
  cases right? with
  | none =>
      cases (show q = .empty from hr)
      cases left? with
      | none => exact hl
      | some left => exact hl
  | some right =>
      obtain ⟨rfl, hq⟩ := hr
      cases left? with
      | none =>
          cases (show p = .empty from hl)
          rw [Query.empty_combine connective hq]
          exact ⟨rfl, hq⟩
      | some left =>
          obtain ⟨rfl, hp⟩ := hl
          exact ⟨rfl, Query.isEmpty_combine connective hp hq⟩

/-- Without its empty queries a tree is combined to the same query. -/
theorem yields_pruned? {tree : QueryTree} (built : ∀ q ∈ tree.leaves, q.IsBuilt) :
    Yields tree.query tree.pruned? := by
  induction tree with
  | leaf q =>
      rw [pruned?]
      cases hq : q.isEmpty with
      | true => exact (built q List.mem_cons_self).eq_empty hq
      | false => exact ⟨rfl, hq⟩
  | combine connective left right ihl ihr =>
      obtain ⟨hl, hr⟩ := List.forall_mem_append.mp built
      exact (ihl hl).merge connective (ihr hr)

theorem pruned?_eq_none_iff {tree : QueryTree} :
    tree.pruned? = none ↔ ∀ q ∈ tree.leaves, q.isEmpty := by
  induction tree with
  | leaf q => simp [pruned?, leaves]
  | combine connective left right ihl ihr =>
      rw [pruned?, leaves, List.forall_mem_append, ← ihl, ← ihr]
      cases left.pruned? <;> cases right.pruned? <;> simp

theorem isEmpty_query {tree : QueryTree} (built : ∀ q ∈ tree.leaves, q.IsBuilt) :
    tree.query.isEmpty ↔ ∀ q ∈ tree.leaves, q.isEmpty := by
  have yields := yields_pruned? built
  rw [← pruned?_eq_none_iff]
  cases hp : tree.pruned? with
  | none =>
      rw [hp] at yields
      rw [show tree.query = .empty from yields]
      simp [Query.empty, Query.isEmpty]
  | some pruned =>
      rw [hp] at yields
      simp [yields.2]

theorem arguments_query {tree : QueryTree} (built : ∀ q ∈ tree.leaves, q.IsBuilt) :
    tree.query.arguments = tree.leaves.flatMap Query.arguments := by
  induction tree with
  | leaf q => simp [query, leaves]
  | combine connective left right ihl ihr =>
      obtain ⟨hl, hr⟩ := List.forall_mem_append.mp built
      rw [query, Query.arguments_combine connective (isBuilt_query hl) (isBuilt_query hr),
        ihl hl, ihr hr, leaves, List.flatMap_append]

/-- The queries that ask something are left, in their order. -/
theorem leaves_pruned? (tree : QueryTree) :
    tree.pruned?.elim [] leaves = tree.leaves.filter fun q => !q.isEmpty := by
  induction tree with
  | leaf q =>
      rw [pruned?]
      cases hq : q.isEmpty <;> simp [leaves, hq]
  | combine connective left right ihl ihr =>
      rw [pruned?, leaves, List.filter_append, ← ihl, ← ihr]
      cases left.pruned? <;> cases right.pruned? <;> simp [leaves]

section Selection

variable {α : Type} {document : α → Json} {elements : List α} {chosen : Query → α → Bool}

theorem isEmpty_query_of_leaves {tree : QueryTree}
    (asking : ∀ q ∈ tree.leaves, q.isEmpty = false) : tree.query.isEmpty = false := by
  induction tree with
  | leaf q => exact asking q List.mem_cons_self
  | combine connective left right ihl ihr =>
      obtain ⟨hl, hr⟩ := List.forall_mem_append.mp asking
      exact Query.isEmpty_combine connective (ihl hl) (ihr hr)

/-- A tree of queries that ask something selects the elements that it decides upon. -/
theorem select_query {tree : QueryTree} (built : ∀ q ∈ tree.leaves, q.IsBuilt)
    (asking : ∀ q ∈ tree.leaves, q.isEmpty = false)
    (alone : ∀ q ∈ tree.leaves, q.select document elements = .ok (elements.filter (chosen q))) :
    tree.query.select document elements =
      .ok (elements.filter fun x => tree.decides fun q => chosen q x) := by
  induction tree with
  | leaf q => exact alone q List.mem_cons_self
  | combine connective left right ihl ihr =>
      obtain ⟨bl, br⟩ := List.forall_mem_append.mp built
      obtain ⟨al, ar⟩ := List.forall_mem_append.mp asking
      obtain ⟨sl, sr⟩ := List.forall_mem_append.mp alone
      exact Query.select_combine connective (isBuilt_query bl) (isBuilt_query br)
        (isEmpty_query_of_leaves al) (isEmpty_query_of_leaves ar) (ihl bl al sl) (ihr br ar sr)

/-- The empty query is handed over as the one that every element satisfies. -/
theorem select_empty (document : α → Json) (elements : List α) :
    Query.empty.select document elements = .ok elements := by
  have writes : Query.always.Writes (.leaf (.constant true)) :=
    ⟨rfl, rfl, by simp [Formula.leaves, Leaf.isFinite]⟩
  have always : Query.empty.select document elements = Query.always.select document elements := rfl
  have kept :
      keepIf (fun x => ((Formula.leaf (.constant true)).predicate none).holds (document x) [])
        elements = .ok (elements.filter fun _ => true) :=
    keepIf_eq_filter fun x _ => by rw [Formula.predicate, Leaf.predicate, Predicate.holds]
  rw [always, writes.select (by simp [Formula.paths, Leaf.paths]), kept, List.filter_true]

/-- What is left of a tree selects as the whole tree does. -/
theorem select_pruned {tree : QueryTree} (built : ∀ q ∈ tree.leaves, q.IsBuilt)
    (alone : ∀ q ∈ tree.leaves, q.isEmpty = false →
      q.select document elements = .ok (elements.filter (chosen q))) :
    tree.query.select document elements =
      .ok (elements.filter fun x => tree.pruned?.elim true (decides fun q => chosen q x)) := by
  have yields := yields_pruned? built
  have left := leaves_pruned? tree
  cases hp : tree.pruned? with
  | none =>
      rw [hp] at yields
      rw [show tree.query = .empty from yields, select_empty]
      simp
  | some pruned =>
      rw [hp] at yields left
      rw [Option.elim_some] at left
      have asking : ∀ q ∈ pruned.leaves, q ∈ tree.leaves ∧ q.isEmpty = false := by
        simp [left]
      rw [← yields.1]
      exact select_query (fun q hq => built q (asking q hq).1) (fun q hq => (asking q hq).2)
        fun q hq => alone q (asking q hq).1 (asking q hq).2

end Selection

/-- Empty queries vanish from a tree: it is combined to the query that it is combined to without
them, with the arguments of its queries in their order, and it is empty only if all of them are.
What is handed over is never empty, and selects the elements for which the tree without its empty
queries holds of what the others select by themselves. -/
theorem empty_leaves_vanish {tree : QueryTree} (built : ∀ q ∈ tree.leaves, q.IsBuilt) :
    (tree.query.isEmpty ↔ ∀ q ∈ tree.leaves, q.isEmpty) ∧
      tree.pruned?.elim [] leaves = tree.leaves.filter (fun q => !q.isEmpty) ∧
      tree.pruned?.elim .empty query = tree.query ∧
      tree.query.arguments = tree.leaves.flatMap Query.arguments ∧
      tree.query.handOver.1 ≠ "" ∧
      ((∀ q ∈ tree.leaves, q.isEmpty) → tree.query.handOver = (truePredicate, [])) ∧
      ∀ {α : Type} [DecidableEq α] (document : α → Json) (elements : List α)
        (kept : Query → List α),
        (∀ q ∈ tree.leaves, q.isEmpty = false → q.select document elements = .ok (kept q)) →
          tree.query.select document elements =
            .ok (elements.filter fun x =>
              tree.pruned?.elim true (decides fun q => decide (x ∈ kept q))) := by
  have yields := yields_pruned? built
  have empty := isEmpty_query built
  refine ⟨empty, leaves_pruned? tree, ?_, arguments_query built, ?_, fun h => ?_, ?_⟩
  · cases hp : tree.pruned? with
    | none =>
        rw [hp] at yields
        exact yields.symm
    | some pruned =>
        rw [hp] at yields
        exact yields.1
  · rw [Query.handOver]
    split
    · exact show truePredicate ≠ "" by decide
    · next hq => simpa [Query.isEmpty] using hq
  · rw [(isBuilt_query built).eq_empty (empty.mpr h)]
    rfl
  · intro α _ document elements kept alone
    refine @select_pruned _ _ _ (fun q x => decide (x ∈ kept q)) _ built fun q hq asking => ?_
    have selected := alone q hq asking
    obtain ⟨f, writes, proper⟩ := (built q hq).writes asking
    rw [writes.select proper] at selected ⊢
    exact keepIf_eq_filter (eq_decide_of_keepIf selected)

end QueryTree

namespace Bookshelf

def optionalTags (epic future : Query) : QueryTree :=
  .combine .and (.combine .or (.leaf .empty) (.leaf epic))
    (.combine .or (.combine .and (.leaf future) (.leaf .empty)) (.leaf .never))

theorem optionalTags_selected :
    ∃ epic future, (QueryPlan.clause tagsEpic).build = .ok epic ∧
      (QueryPlan.clause tagsFuture).build = .ok future ∧
      (optionalTags epic future).query.select tagDocument tagLists =
        .ok [["sci-fi", "epic"]] := by
  have epicPaths : ∀ path ∈ tagsEpic.formula.paths, isProper path := by decide
  have futurePaths : ∀ path ∈ tagsFuture.formula.paths, isProper path := by decide
  have epic : Query.Writes _ tagsEpic.formula :=
    @QueryPlan.asks_of_build (.clause tagsEpic) _ rfl
  have future : Query.Writes _ tagsFuture.formula :=
    @QueryPlan.asks_of_build (.clause tagsFuture) _ rfl
  have never : Query.Writes _ (.leaf (.constant false)) := @QueryPlan.asks_of_build .never _ rfl
  have empty : Query.empty.IsBuilt := ⟨.empty, rfl, by decide⟩
  refine ⟨_, _, rfl, rfl, ?_⟩
  obtain ⟨-, -, -, -, -, -, selects⟩ := @QueryTree.empty_leaves_vanish (optionalTags _ _)
    (List.forall_mem_cons.mpr ⟨empty, List.forall_mem_cons.mpr ⟨⟨.clause tagsEpic, rfl, epicPaths⟩,
      List.forall_mem_cons.mpr ⟨⟨.clause tagsFuture, rfl, futurePaths⟩,
        List.forall_mem_cons.mpr ⟨empty, List.forall_mem_singleton.mpr ⟨.never, rfl, by decide⟩⟩⟩⟩⟩)
  refine (selects tagDocument tagLists (fun q =>
    if q.arguments.isEmpty then []
    else if q.format = "ANY SELF = ?" then [["sci-fi", "epic"]]
    else [["sci-fi", "epic"], ["epic"]]) ?_).trans (by decide +kernel)
  refine List.forall_mem_cons.mpr ⟨fun h => Bool.noConfusion h,
    List.forall_mem_cons.mpr ⟨fun _ => ?_, List.forall_mem_cons.mpr ⟨fun _ => ?_,
      List.forall_mem_cons.mpr ⟨fun h => Bool.noConfusion h,
        List.forall_mem_singleton.mpr fun _ => ?_⟩⟩⟩⟩
  · exact (epic.select epicPaths tagDocument tagLists).trans (by decide +kernel)
  · exact (future.select futurePaths tagDocument tagLists).trans (by decide +kernel)
  · exact (never.select (by decide) tagDocument tagLists).trans (by decide +kernel)

end Bookshelf

end Winnow
