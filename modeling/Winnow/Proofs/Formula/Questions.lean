import Winnow.Proofs.Formula.Comparing

/-!
The questions that a formula asks at its own root. What a formula says depends on their answers
alone, so the same formula can be asked of an element by itself and of the item of a collection
around it.
-/

namespace Winnow

/-- What the value under a root is asked for. -/
inductive Question where
  | field (path : String)
  | total (collection : String)
  | function (collection number : String) (a : AggregateFunction)

namespace Question

/-- The steps of a question from the value at the root. -/
def names : Question → List String
  | field path => Winnow.names path
  | total collection => Winnow.names collection ++ ["@count"]
  | function collection number a => Winnow.names collection ++ a.keyword :: Winnow.names number

/-- The steps of a question as they are written at a root. -/
def steps (root : Root) : Question → List String
  | field path => fieldSteps root path
  | total collection => fieldSteps root collection ++ ["@count"]
  | function collection number a => functionSteps root collection number a

theorem steps_some (n : Nat) (x : Question) :
    x.steps (some n) = Subquery.itemNameAt n :: x.names := by
  cases x <;> rfl

end Question

def Leaf.questions : Leaf → List Question
  | constant _ => []
  | compare path _ => [.field path]
  | aggregate collection field a => [.function collection field a.function]

def Quantifier.questions (collection : String) : Quantifier → List Question
  | all => [.field collection, .total collection]
  | _ => [.field collection]

namespace Formula

mutual

def questions : Formula → List Question
  | .leaf l => l.questions
  | .junction _ first others => first.questions ++ questionsOfAll others
  | .subquery quantifier collection _ => quantifier.questions collection

def questionsOfAll : List Formula → List Question
  | [] => []
  | f :: rest => f.questions ++ questionsOfAll rest

end

theorem questionsOfAll_eq (fs : List Formula) : questionsOfAll fs = fs.flatMap questions := by
  induction fs with
  | nil => rfl
  | cons f rest ih => rw [questionsOfAll, ih, List.flatMap_cons]

end Formula

/-! ### Answers -/

/-- The answer to a question that is asked of the item of a variable is found from the item. -/
theorem resolve_item {element item : Json} {scope : Scope} {n : Nat}
    (h : scope.lookup (Subquery.itemNameAt n) = some item) (x : Question) :
    resolve element scope (x.steps (some n)) = item.walk x.names := by
  have apart : Subquery.itemNameAt n ≠ resolve.selfName := fun he => by
    have := congrArg String.toList he
    rw [toList_itemNameAt] at this
    exact absurd this (by simp [resolve.selfName])
  rw [Question.steps_some, resolve, if_neg apart, toList_itemNameAt]
  simp only [h]

namespace Formula

variable {root root' : Root} {element element' : Json} {scope scope' : Scope}

theorem holds_compare_congr {any : Bool} {left left' right right' : Expression}
    {relation : Relation} {folding : Folding}
    (hl : left.evaluate element scope = left'.evaluate element' scope')
    (hr : right.evaluate element scope = right'.evaluate element' scope') :
    (Predicate.compare any left relation folding right).holds element scope =
      (Predicate.compare any left' relation folding right').holds element' scope' := by
  rw [Predicate.holds, Predicate.holds, hl, hr]

theorem holds_connective_congr (connective : Connective) {p p' q q' : Predicate}
    (hp : p.holds element scope = p'.holds element' scope')
    (hq : q.holds element scope = q'.holds element' scope') :
    (connective.predicate p q).holds element scope =
      (connective.predicate p' q').holds element' scope' := by
  cases connective <;> simp only [Connective.predicate, Predicate.holds, hp, hq]

theorem holds_others_congr (connective : Connective) {others : List Formula}
    (h : ∀ f ∈ others, (f.predicate root).holds element scope =
      (f.predicate root').holds element' scope') {p p' : Predicate}
    (hp : p.holds element scope = p'.holds element' scope') :
    ((predicates root others).foldl connective.predicate p).holds element scope =
      ((predicates root' others).foldl connective.predicate p').holds element' scope' := by
  induction others generalizing p p' with
  | nil => exact hp
  | cons f rest ih =>
      rw [predicates, predicates, List.foldl_cons, List.foldl_cons]
      exact ih (fun g hg => h g (List.mem_cons_of_mem f hg))
        (holds_connective_congr connective hp (h f List.mem_cons_self))

/-- A formula holds in the same places if its questions have the same answers there. -/
theorem holds_congr {f : Formula} (h : ∀ x ∈ f.questions,
      resolve element scope (x.steps root) = resolve element' scope' (x.steps root')) :
    (f.predicate root).holds element scope = (f.predicate root').holds element' scope' := by
  induction f generalizing root root' element element' scope scope' with
  | leaf l =>
      cases l with
      | constant b => rfl
      | compare path comparison =>
          refine holds_compare_congr ?_ (by simp only [Comparison.evaluate_operand_eq])
          simpa [Expression.evaluate, Question.steps] using h (.field path) List.mem_cons_self
      | aggregate collection field a =>
          refine holds_compare_congr ?_ (by simp only [AggregateTest.evaluate_operand_eq])
          simpa [Expression.evaluate, Question.steps] using
            h (.function collection field a.function) List.mem_cons_self
  | junction connective first others ihf iho =>
      simp only [questions, questionsOfAll_eq, List.mem_append, List.mem_flatMap] at h
      refine holds_others_congr connective (fun f hf => ?_) (ihf fun x hx => h x (.inl hx))
      exact iho f hf fun x hx => h x (.inr ⟨f, hf, hx⟩)
  | subquery quantifier collection inner ih =>
      have collections := h (.field collection) (by cases quantifier <;> exact List.mem_cons_self)
      -- The items are asked for by a variable of their own, whatever the root is.
      have body (item : Json) :
          (inner.predicate (some inner.height)).holds element
              ((Subquery.itemNameAt inner.height, item) :: scope) =
            (inner.predicate (some inner.height)).holds element'
              ((Subquery.itemNameAt inner.height, item) :: scope') := by
        refine ih fun x _ => ?_
        rw [resolve_item (List.lookup_cons_self ..), resolve_item (List.lookup_cons_self ..)]
      refine holds_compare_congr ?_ ?_
      · simp only [Question.steps] at collections
        simp only [Expression.evaluate, collections, body]
      · cases quantifier with
        | all => exact h (.total collection) (List.mem_cons_of_mem _ List.mem_cons_self)
        | any | none => simp [Quantifier.total, Expression.evaluate]

end Formula

end Winnow
