import Winnow.Query.Plan
import Winnow.Report.Settings

/-!
Reports of building a query: one for every condition that was compiled, in the order of building, up
to the first error.
-/

namespace Winnow

/-- Something that happened while a query was built, with details by name. -/
structure Report where
  level : ReportLevel
  message : String
  details : List (String × String)

namespace Report

def ofComparison (path : String) (c : Comparison) : Report :=
  { level := .trace
    message := "compiled comparison"
    details :=
      [("expression", path), ("operator", c.keyword), ("fragment", (c.compile path).render)] }

def ofAggregate (collection : String) (a : Aggregate) (t : Template) : Report :=
  { level := .trace
    message := "compiled aggregate"
    details :=
      [("collection", collection), ("function", a.function.keyword), ("fragment", t.render)] }

def ofJunction (j : Junction) : Report :=
  { level := .trace
    message := "compiled group"
    details :=
      [("operator", j.connective.keyword), ("leaves", toString j.clauses.length),
        ("fragment", j.format)] }

def ofSubquery (s : Subquery) : Report :=
  { level := .debug
    message := "compiled subquery"
    details :=
      [("quantifier", s.quantifier.name), ("collection", (KeyPath.mk s.collection).expression),
        ("variable", s.itemName), ("fragment", s.format)] }

/-- A query made of two; if one of them is empty there is nothing to report. -/
def ofCombination (connective : Connective) (p q : Query) : List Report :=
  if p.isEmpty || q.isEmpty then []
  else
    [{ level := .trace
       message := "combined queries"
       details :=
        [("operator", connective.keyword), ("format", (Query.combine connective p q).format)] }]

/-- A query that is handed over; the empty query is not reported. -/
def ofHandOver (q : Query) : List Report :=
  if q.isEmpty then []
  else
    [{ level := .debug
       message := "query handed off"
       details := [("format", q.format), ("arguments", toString q.arguments.length)] }]

def ofResult {α : Type} (report : α → Report) : Except BuildError α → List Report
  | .ok value => [report value]
  | .error _ => []

end Report

mutual

def ClausePlan.reports : ClausePlan → List Report
  | .compare path c => [.ofComparison path.raw c]
  | .expression text c => Report.ofResult (fun _ => .ofComparison (Text.trim text) c)
      (Clause.ofExpression text c)
  | .aggregate collection field a => Report.ofResult (.ofAggregate collection.raw a)
      (a.compile collection.raw field.raw)
  | .subquery plan => plan.reports

def ClausePlan.reportsAll : List ClausePlan → List Report
  | [] => []
  | plan :: rest =>
    plan.reports ++
      match plan.build with
      | .ok _ => ClausePlan.reportsAll rest
      | .error _ => []

def JunctionPlan.reports : JunctionPlan → List Report
  | .join connective plans =>
    ClausePlan.reportsAll plans ++
      Report.ofResult .ofJunction (JunctionPlan.join connective plans).build
  | .extend base plan =>
    base.reports ++
      match base.build with
      | .ok _ =>
        plan.reports ++ Report.ofResult .ofJunction (JunctionPlan.extend base plan).build
      | .error _ => []

def ConditionPlan.reports : ConditionPlan → List Report
  | .clause plan => plan.reports
  | .junction plan => plan.reports

def SubqueryPlan.reports : SubqueryPlan → List Report
  | .asking quantifier collection inner =>
    inner.reports ++
      Report.ofResult .ofSubquery (SubqueryPlan.asking quantifier collection inner).build
  | .askingAll quantifier connective collection plans =>
    ClausePlan.reportsAll plans ++
      Report.ofResult .ofJunction (JunctionPlan.join connective plans).build ++
      Report.ofResult .ofSubquery
        (SubqueryPlan.askingAll quantifier connective collection plans).build

end

def QueryPlan.reports : QueryPlan → List Report
  | empty => []
  | always => []
  | never => []
  | clause plan => plan.reports
  | junction plan => plan.reports
  | subquery plan => plan.reports
  | combine connective left right =>
    left.reports ++
      match left.build with
      | .error _ => []
      | .ok p =>
        right.reports ++
          match right.build with
          | .error _ => []
          | .ok q => Report.ofCombination connective p q

def QueryPlan.reportsOfHandOver (plan : QueryPlan) : List Report :=
  plan.reports ++
    match plan.build with
    | .ok q => Report.ofHandOver q
    | .error _ => []

def ReportVariables.emitted (v : ReportVariables) (reports : List Report) : List Report :=
  if v.isEnabled then reports else []

end Winnow
