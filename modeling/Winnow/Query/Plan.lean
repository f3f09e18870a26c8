import Winnow.Query.Basic

/-!
Plans: how a query is put together, as data. Building a plan works from left to right and from the
inside out, and the first error is the error of the whole.
-/

namespace Winnow

mutual

/-- How a clause is built. -/
inductive ClausePlan where
  | compare (path : KeyPath) (comparison : Comparison)
  | expression (text : String) (comparison : Comparison)
  | aggregate (collection field : KeyPath) (aggregate : Aggregate)
  | subquery (plan : SubqueryPlan)

inductive JunctionPlan where
  | join (connective : Connective) (clauses : List ClausePlan)
  | extend (base : JunctionPlan) (clause : ClausePlan)

inductive ConditionPlan where
  | clause (plan : ClausePlan)
  | junction (plan : JunctionPlan)

inductive SubqueryPlan where
  | asking (quantifier : Quantifier) (collection : KeyPath) (inner : ConditionPlan)
  | askingAll (quantifier : Quantifier) (connective : Connective) (collection : KeyPath)
      (clauses : List ClausePlan)

end

inductive QueryPlan where
  | empty
  | always
  | never
  | clause (plan : ClausePlan)
  | junction (plan : JunctionPlan)
  | subquery (plan : SubqueryPlan)
  | combine (connective : Connective) (left right : QueryPlan)

mutual

def ClausePlan.build : ClausePlan → Except BuildError Clause
  | .compare path comparison => .ok (.compare path comparison)
  | .expression text comparison => Clause.ofExpression text comparison
  | .aggregate collection field a => Clause.aggregate collection field a
  | .subquery plan =>
    match plan.build with
    | .ok s => .ok s.toClause
    | .error e => .error e

def ClausePlan.buildAll : List ClausePlan → Except BuildError (List Clause)
  | [] => .ok []
  | plan :: rest =>
    match plan.build with
    | .error e => .error e
    | .ok clause =>
      match ClausePlan.buildAll rest with
      | .error e => .error e
      | .ok clauses => .ok (clause :: clauses)

def JunctionPlan.build : JunctionPlan → Except BuildError Junction
  | .join connective plans =>
    match ClausePlan.buildAll plans with
    | .error e => .error e
    | .ok clauses => Junction.ofList connective clauses
  | .extend base plan =>
    match base.build with
    | .error e => .error e
    | .ok junction =>
      match plan.build with
      | .error e => .error e
      | .ok clause => .ok (junction.extend clause)

def ConditionPlan.build : ConditionPlan → Except BuildError Condition
  | .clause plan =>
    match plan.build with
    | .ok c => .ok (.clause c)
    | .error e => .error e
  | .junction plan =>
    match plan.build with
    | .ok j => .ok (.junction j)
    | .error e => .error e

def SubqueryPlan.build : SubqueryPlan → Except BuildError Subquery
  | .asking quantifier collection inner =>
    match inner.build with
    | .ok condition => .ok (.asking quantifier collection condition)
    | .error e => .error e
  | .askingAll quantifier connective collection plans =>
    match ClausePlan.buildAll plans with
    | .error e => .error e
    | .ok clauses => Subquery.askingAll quantifier connective collection clauses

end

def QueryPlan.build : QueryPlan → Except BuildError Query
  | empty => .ok .empty
  | always => .ok .always
  | never => .ok .never
  | clause plan =>
    match plan.build with
    | .ok c => .ok (.ofTemplate c.template)
    | .error e => .error e
  | junction plan =>
    match plan.build with
    | .ok j => .ok (.ofTemplate j.template)
    | .error e => .error e
  | subquery plan =>
    match plan.build with
    | .ok s => .ok (.ofTemplate s.template)
    | .error e => .error e
  | combine connective left right =>
    match left.build with
    | .error e => .error e
    | .ok p =>
      match right.build with
      | .error e => .error e
      | .ok q => .ok (.combine connective p q)

end Winnow
