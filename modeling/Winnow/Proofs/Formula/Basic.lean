import Winnow.Query.Plan

/-!
Conditions as trees. A formula is what a plan asks, without the text that it is compiled to and
without the way in which it was put together: a leaf is a single condition on an element, a junction
has at least one condition, and the conditions of a subquery are asked of items.
-/

namespace Winnow

inductive Leaf where
  | constant (b : Bool)
  | compare (path : String) (comparison : Comparison)
  | aggregate (collection field : String) (aggregate : Aggregate)

inductive Formula where
  | leaf (l : Leaf)
  | junction (connective : Connective) (first : Formula) (others : List Formula)
  | subquery (quantifier : Quantifier) (collection : String) (inner : Formula)

namespace Comparison

def arguments : Comparison → List Argument
  | matching _ value _ => [value.bind]
  | member values _ => [.list (Value.bindAll values)]
  | between low high => [low.bind, high.bind]
  | ordered _ value => [value.bind]

end Comparison

namespace Leaf

def arguments : Leaf → List Argument
  | constant _ => []
  | compare _ comparison => comparison.arguments
  | aggregate _ _ _ => []

def paths : Leaf → List String
  | constant _ => []
  | compare path _ => [path]
  | aggregate collection field _ => [collection, field]

end Leaf

def Quantity.isFinite : Quantity → Bool
  | integer _ => true
  | single x => x.isFinite
  | double x => x.isFinite

def AggregateTest.isFinite : AggregateTest → Bool
  | above bound => bound.isFinite
  | below bound => bound.isFinite
  | equal value => value.isFinite
  | between low high => low.isFinite && high.isFinite

/-- Every number that a leaf is written with has a text. -/
def Leaf.isFinite : Leaf → Bool
  | aggregate _ _ a => a.test.isFinite
  | _ => true

namespace Formula

/-- A property of formulas holds if it is handed on from the parts to the whole. -/
@[elab_as_elim, induction_eliminator]
theorem induct {motive : Formula → Prop} (leaf : ∀ l, motive (.leaf l))
    (junction : ∀ connective first others, motive first → (∀ f ∈ others, motive f) →
      motive (.junction connective first others))
    (subquery : ∀ quantifier collection inner, motive inner →
      motive (.subquery quantifier collection inner)) (f : Formula) : motive f :=
  match f with
  | .leaf l => leaf l
  | .junction connective first others =>
    junction connective first others (induct leaf junction subquery first)
      fun f _ => induct leaf junction subquery f
  | .subquery quantifier collection inner =>
    subquery quantifier collection inner (induct leaf junction subquery inner)

mutual

def height : Formula → Nat
  | .leaf _ => 0
  | .junction _ first others => max first.height (greatestHeight others)
  | .subquery _ _ inner => inner.height + 1

def greatestHeight : List Formula → Nat
  | [] => 0
  | f :: rest => max f.height (greatestHeight rest)

end

mutual

def leaves : Formula → List Leaf
  | .leaf l => [l]
  | .junction _ first others => first.leaves ++ leavesOfAll others
  | .subquery _ _ inner => inner.leaves

def leavesOfAll : List Formula → List Leaf
  | [] => []
  | f :: rest => f.leaves ++ leavesOfAll rest

end

mutual

def paths : Formula → List String
  | .leaf l => l.paths
  | .junction _ first others => first.paths ++ pathsOfAll others
  | .subquery _ collection inner => collection :: inner.paths

def pathsOfAll : List Formula → List String
  | [] => []
  | f :: rest => f.paths ++ pathsOfAll rest

end

/-- The arguments of a formula in the order of its leaves. -/
def arguments (f : Formula) : List Argument := f.leaves.flatMap Leaf.arguments

theorem leavesOfAll_eq (fs : List Formula) : leavesOfAll fs = fs.flatMap leaves := by
  induction fs with
  | nil => rfl
  | cons f rest ih => rw [leavesOfAll, ih, List.flatMap_cons]

theorem pathsOfAll_eq (fs : List Formula) : pathsOfAll fs = fs.flatMap paths := by
  induction fs with
  | nil => rfl
  | cons f rest ih => rw [pathsOfAll, ih, List.flatMap_cons]

theorem forall_mem_paths_junction {connective : Connective} {first : Formula}
    {others : List Formula} {P : String → Prop} :
    (∀ path ∈ (junction connective first others).paths, P path) ↔
      (∀ path ∈ first.paths, P path) ∧ ∀ f ∈ others, ∀ path ∈ f.paths, P path := by
  simp only [paths, pathsOfAll_eq, List.mem_append, List.mem_flatMap]
  constructor
  · exact fun h => ⟨fun path hp => h path (.inl hp), fun f hf path hp => h path (.inr ⟨f, hf, hp⟩)⟩
  · rintro ⟨front, behind⟩ path (hp | ⟨f, hf, hp⟩)
    · exact front path hp
    · exact behind f hf path hp

@[simp] theorem arguments_leaf (l : Leaf) : (leaf l).arguments = l.arguments := by
  simp [arguments, leaves]

@[simp] theorem arguments_junction (connective : Connective) (first : Formula)
    (others : List Formula) :
    (junction connective first others).arguments =
      first.arguments ++ others.flatMap arguments := by
  simp only [arguments, leaves, leavesOfAll_eq, List.flatMap_append, List.flatMap_assoc]
  rfl

@[simp] theorem arguments_subquery (quantifier : Quantifier) (collection : String)
    (inner : Formula) : (subquery quantifier collection inner).arguments = inner.arguments := rfl

end Formula

end Winnow
