import Mathlib.Data.List.TakeWhile
import Winnow.Proofs.Formula.Building

/-!
When building fails. The parts of a plan whose building may fail are listed in the order in which
they are built. A plan cannot be built exactly if one of them is faulty, and the first faulty one
tells the error.
-/

namespace Winnow

/-- The error that a result is, if it is one. -/
def BuildError.raised? {α : Type} : Except BuildError α → Option BuildError
  | .ok _ => none
  | .error e => some e

theorem BuildError.raised?_eq_some_iff {α : Type} {r : Except BuildError α} {e : BuildError} :
    raised? r = some e ↔ r = .error e := by
  cases r <;> simp [raised?]

theorem BuildError.raised?_eq_none_iff {α : Type} {r : Except BuildError α} :
    raised? r = none ↔ ∃ a, r = .ok a := by
  cases r <;> simp [raised?]

/-- A text is blank if nothing is left of it without the blanks at its ends. -/
theorem Text.isEmpty_trim (text : String) : (trim text).isEmpty = text.toList.all isBlank := by
  rw [Bool.eq_iff_iff, String.isEmpty_iff, ← String.toList_eq_nil_iff, trim, String.toList_ofList,
    List.reverse_eq_nil_iff, List.dropWhile_eq_nil_iff, List.all_eq_true]
  constructor
  · intro blank
    -- What is left in front would begin with a character that is not blank.
    rw [← List.dropWhile_eq_nil_iff]
    by_contra left
    have first := List.head_dropWhile_not isBlank left
    have last := blank _ (List.mem_reverse.mpr (List.head_mem left))
    rw [first] at last
    cases last
  · intro blank c hc
    exact blank c ((List.dropWhile_sublist isBlank).mem (List.mem_reverse.mp hc))

/-- A part of a plan whose building may fail. Of clauses under a connective only the number
counts. -/
inductive BuildCall where
  | expression (text : String)
  | aggregate (collection : KeyPath) (test : AggregateTest)
  | group (connective : Connective) (clauses : Nat)
  | itemGroup (collection : KeyPath) (clauses : Nat)

namespace BuildCall

/-- The text names no field, a number has no text, or there are no clauses. -/
def isFaulty : BuildCall → Bool
  | expression text => text.toList.all Text.isBlank
  | aggregate _ test => !test.isFinite
  | group _ clauses => clauses == 0
  | itemGroup _ clauses => clauses == 0

def code : BuildCall → ErrorCode
  | expression _ => .invalidExpression
  | aggregate _ _ => .invalidArgument
  | group _ _ => .invalidQuery
  | itemGroup _ _ => .invalidQuery

def collection? : BuildCall → Option KeyPath
  | expression _ => none
  | aggregate collection _ => some collection
  | group _ _ => none
  | itemGroup collection _ => some collection

def error : BuildCall → BuildError
  | expression _ => .blankExpression
  | aggregate collection _ => AggregateTest.notFinite.withExpression collection.expression
  | group connective _ => .emptyGroup connective.keyword
  | itemGroup collection _ => .emptySubquery collection.expression

def error? (call : BuildCall) : Option BuildError := if call.isFaulty then some call.error else none

/-- An error has the code of its call, and names the collection if there is one. -/
theorem error_context (call : BuildCall) :
    call.error.code = call.code ∧
      call.error.context.expression = call.collection?.map KeyPath.expression := by
  cases call <;> exact ⟨rfl, rfl⟩

end BuildCall

mutual

def ClausePlan.calls : ClausePlan → List BuildCall
  | .compare _ _ => []
  | .expression text _ => [.expression text]
  | .aggregate collection _ a => [.aggregate collection a.test]
  | .subquery plan => plan.calls

def ClausePlan.callsOfAll : List ClausePlan → List BuildCall
  | [] => []
  | plan :: rest => plan.calls ++ ClausePlan.callsOfAll rest

def JunctionPlan.calls : JunctionPlan → List BuildCall
  | .join connective plans => ClausePlan.callsOfAll plans ++ [.group connective plans.length]
  | .extend base plan => base.calls ++ plan.calls

def ConditionPlan.calls : ConditionPlan → List BuildCall
  | .clause plan => plan.calls
  | .junction plan => plan.calls

def SubqueryPlan.calls : SubqueryPlan → List BuildCall
  | .asking _ _ inner => inner.calls
  | .askingAll _ _ collection plans =>
    ClausePlan.callsOfAll plans ++ [.itemGroup collection plans.length]

end

/-- The parts of a query that may be faulty, in the order in which they are built. -/
def QueryPlan.calls : QueryPlan → List BuildCall
  | empty => []
  | always => []
  | never => []
  | clause plan => plan.calls
  | junction plan => plan.calls
  | subquery plan => plan.calls
  | combine _ left right => left.calls ++ right.calls

def BuildCall.firstError? (calls : List BuildCall) : Option BuildError :=
  calls.findSome? error?

namespace BuildCall

theorem firstError?_append (calls more : List BuildCall) :
    firstError? (calls ++ more) = (firstError? calls).or (firstError? more) :=
  List.findSome?_append

theorem firstError?_singleton (call : BuildCall) : firstError? [call] = call.error? := by
  rw [firstError?, List.findSome?_singleton]

variable {call : BuildCall} {calls : List BuildCall} {e : BuildError}

theorem error?_eq_some_iff : call.error? = some e ↔ call.isFaulty ∧ call.error = e := by
  rw [error?]
  split <;> simp_all

theorem error?_eq_none_iff : call.error? = none ↔ ¬ call.isFaulty := by
  rw [error?]
  split <;> simp_all

theorem firstError?_eq_some_iff :
    firstError? calls = some e ↔ ∃ before call after, calls = before ++ call :: after ∧
      call.isFaulty ∧ call.error = e ∧ ∀ earlier ∈ before, ¬ earlier.isFaulty := by
  simp only [firstError?, List.findSome?_eq_some_iff, error?_eq_some_iff, error?_eq_none_iff,
    and_assoc]

theorem firstError?_eq_none_iff : firstError? calls = none ↔ ∀ call ∈ calls, ¬ call.isFaulty := by
  simp only [firstError?, List.findSome?_eq_none_iff, error?_eq_none_iff]

end BuildCall

open BuildError (raised?)
open BuildCall (firstError?)

theorem raised?_ofExpression (text : String) (comparison : Comparison) :
    raised? (Clause.ofExpression text comparison) = (BuildCall.expression text).error? := by
  have blank : (KeyPath.ofText text).isElement = (BuildCall.expression text).isFaulty :=
    Text.isEmpty_trim text
  rw [Clause.ofExpression, BuildCall.error?, ← blank]
  cases (KeyPath.ofText text).isElement <;> rfl

theorem raised?_aggregate (collection field : KeyPath) (a : Aggregate) :
    raised? (Clause.aggregate collection field a) =
      (BuildCall.aggregate collection a.test).error? := by
  rw [Clause.aggregate, Aggregate.compile, BuildCall.error?, BuildCall.isFaulty]
  obtain ⟨finite, text, h⟩ | ⟨finite, h⟩ := a.test.text_cases <;> rw [finite, h] <;> rfl

theorem raised?_ofList (connective : Connective) (clauses : List Clause) :
    raised? (Junction.ofList connective clauses) =
      (BuildCall.group connective clauses.length).error? := by
  cases clauses <;> rfl

theorem raised?_askingAll (quantifier : Quantifier) (connective : Connective)
    (collection : KeyPath) (clauses : List Clause) :
    raised? (Subquery.askingAll quantifier connective collection clauses) =
      (BuildCall.itemGroup collection clauses.length).error? := by
  cases clauses <;> rfl

theorem ClausePlan.length_of_buildAll {plans : List ClausePlan} {clauses : List Clause}
    (h : buildAll plans = .ok clauses) : clauses.length = plans.length := by
  induction plans generalizing clauses with
  | nil =>
      cases h
      rfl
  | cons plan rest ih =>
      rw [buildAll] at h
      split at h
      · cases h
      · split at h
        · cases h
        · next hr =>
            cases h
            rw [List.length_cons, List.length_cons, ih hr]

mutual

/-- Building a clause raises the error of its first faulty part. -/
theorem ClausePlan.raised?_build :
    ∀ plan : ClausePlan, raised? plan.build = firstError? plan.calls
  | .compare path comparison => rfl
  | .expression text comparison => by
      rw [ClausePlan.build, ClausePlan.calls, raised?_ofExpression, BuildCall.firstError?_singleton]
  | .aggregate collection field a => by
      rw [ClausePlan.build, ClausePlan.calls, raised?_aggregate, BuildCall.firstError?_singleton]
  | .subquery plan => by
      rw [ClausePlan.build, ClausePlan.calls, ← plan.raised?_build]
      cases plan.build <;> rfl

theorem ClausePlan.raised?_buildAll :
    ∀ plans : List ClausePlan, raised? (ClausePlan.buildAll plans) =
      firstError? (ClausePlan.callsOfAll plans)
  | [] => rfl
  | plan :: rest => by
      rw [ClausePlan.buildAll, ClausePlan.callsOfAll, BuildCall.firstError?_append,
        ← plan.raised?_build, ← ClausePlan.raised?_buildAll rest]
      cases plan.build with
      | error e => rfl
      | ok c => cases ClausePlan.buildAll rest <;> rfl

theorem JunctionPlan.raised?_build :
    ∀ plan : JunctionPlan, raised? plan.build = firstError? plan.calls
  | .join connective plans => by
      rw [JunctionPlan.build, JunctionPlan.calls, BuildCall.firstError?_append,
        BuildCall.firstError?_singleton, ← ClausePlan.raised?_buildAll plans]
      cases built : ClausePlan.buildAll plans with
      | error e => rfl
      | ok clauses =>
          rw [← ClausePlan.length_of_buildAll built]
          exact raised?_ofList connective clauses
  | .extend base plan => by
      rw [JunctionPlan.build, JunctionPlan.calls, BuildCall.firstError?_append,
        ← base.raised?_build, ← plan.raised?_build]
      cases base.build with
      | error e => rfl
      | ok j => cases plan.build <;> rfl

theorem ConditionPlan.raised?_build :
    ∀ plan : ConditionPlan, raised? plan.build = firstError? plan.calls
  | .clause plan => by
      rw [ConditionPlan.build, ConditionPlan.calls, ← plan.raised?_build]
      cases plan.build <;> rfl
  | .junction plan => by
      rw [ConditionPlan.build, ConditionPlan.calls, ← plan.raised?_build]
      cases plan.build <;> rfl

theorem SubqueryPlan.raised?_build :
    ∀ plan : SubqueryPlan, raised? plan.build = firstError? plan.calls
  | .asking quantifier collection inner => by
      rw [SubqueryPlan.build, SubqueryPlan.calls, ← inner.raised?_build]
      cases inner.build <;> rfl
  | .askingAll quantifier connective collection plans => by
      rw [SubqueryPlan.build, SubqueryPlan.calls, BuildCall.firstError?_append,
        BuildCall.firstError?_singleton, ← ClausePlan.raised?_buildAll plans]
      cases built : ClausePlan.buildAll plans with
      | error e => rfl
      | ok clauses =>
          rw [← ClausePlan.length_of_buildAll built]
          exact raised?_askingAll quantifier connective collection clauses

end

namespace QueryPlan

/-- Building a query raises the error of its first faulty part. -/
theorem raised?_build (plan : QueryPlan) : raised? plan.build = firstError? plan.calls := by
  induction plan with
  | empty | always | never => rfl
  | clause plan =>
      rw [build, calls, ← plan.raised?_build]
      cases plan.build <;> rfl
  | junction plan =>
      rw [build, calls, ← plan.raised?_build]
      cases plan.build <;> rfl
  | subquery plan =>
      rw [build, calls, ← plan.raised?_build]
      cases plan.build <;> rfl
  | combine connective left right ihl ihr =>
      rw [build, calls, BuildCall.firstError?_append, ← ihl, ← ihr]
      cases left.build with
      | error e => rfl
      | ok p => cases right.build <;> rfl

/-- A query that is built has a text, unless it asks nothing. What is handed over always has one. -/
theorem text_of_build {plan : QueryPlan} {q : Query} (h : plan.build = .ok q) :
    (q.format = "" ↔ plan.formula? = none) ∧ q.handOver.1 ≠ "" := by
  constructor
  · have asks := asks_of_build h
    cases hf : plan.formula? with
    | none =>
        rw [hf] at asks
        obtain rfl : q = .empty := asks
        exact ⟨fun _ => rfl, fun _ => rfl⟩
    | some f =>
        rw [hf] at asks
        have writes : q.Writes f := asks
        simpa [Query.isEmpty] using writes.isEmpty
  · rw [(handOver_of_build h).1]
    exact Formula.text_ne_empty none _

/-- A query can be built exactly if its plan has no faulty part. Otherwise the error is that of the
first one in the order of building, with its code and the collection that it is about. What is built
has a text: only a query that asks nothing has none, and even that is not handed over without. -/
theorem build_eq_error_iff (plan : QueryPlan) :
    ((∃ q, plan.build = .ok q) ↔ ∀ call ∈ plan.calls, ¬ call.isFaulty) ∧
    (∀ e, plan.build = .error e ↔ ∃ before call after,
      plan.calls = before ++ call :: after ∧ call.isFaulty ∧ call.error = e ∧
        ∀ earlier ∈ before, ¬ earlier.isFaulty) ∧
    (∀ call ∈ plan.calls, call.error.code = call.code ∧
      call.error.context.expression = call.collection?.map KeyPath.expression) ∧
    ∀ q, plan.build = .ok q → (q.format = "" ↔ plan.formula? = none) ∧ q.handOver.1 ≠ "" := by
  refine ⟨?_, fun e => ?_, fun call _ => call.error_context, fun q built => text_of_build built⟩
  · rw [← BuildError.raised?_eq_none_iff, raised?_build, BuildCall.firstError?_eq_none_iff]
  · rw [← BuildError.raised?_eq_some_iff, raised?_build, BuildCall.firstError?_eq_some_iff]

end QueryPlan

namespace Bookshelf

def twiceFaulty : QueryPlan :=
  .junction (.join .and
    [.subquery (.askingAll .any .or ⟨"chapters"⟩ []),
      .expression " \t" (.ordered .above (.integer 3))])

theorem twiceFaulty_build :
    twiceFaulty.calls =
        [.itemGroup ⟨"chapters"⟩ 0, .expression " \t", .group .and 2] ∧
      twiceFaulty.build = .error (.emptySubquery "chapters") := by
  have calls : twiceFaulty.calls =
      [.itemGroup ⟨"chapters"⟩ 0, .expression " \t", .group .and 2] := rfl
  obtain ⟨-, failed, -⟩ := QueryPlan.build_eq_error_iff twiceFaulty
  refine ⟨calls, (failed _).mpr ⟨[], .itemGroup ⟨"chapters"⟩ 0, _, calls, rfl, rfl, ?_⟩⟩
  simp

end Bookshelf

end Winnow
