import Winnow.Query.Basic

/-!
Conditions and queries for inspection: the kind, the text and the arguments on one line.
-/

namespace Winnow

def inspectRecord (name : String) (fields : List (String × String)) : String :=
  let field (entry : String × String) : String := entry.1 ++ ": " ++ entry.2
  name ++ " \x7b " ++ Text.joined ", " (fields.map field) ++ " \x7d"

def Connective.inspect : Connective → String
  | and => "And"
  | or => "Or"

def Quantifier.inspect : Quantifier → String
  | any => "Any"
  | all => "All"
  | none => "None"

/-- The fields that every record of a condition has. -/
def inspectText (format : String) (arguments : List Argument) : List (String × String) :=
  [("format", Text.inspect format), ("arguments", Argument.inspectAll arguments)]

def Clause.inspect (c : Clause) : String :=
  inspectRecord "PartialPair" (inspectText c.format c.template.arguments)

def Junction.inspect (j : Junction) : String :=
  inspectRecord "Group"
    (("operator", j.connective.inspect) :: inspectText j.format j.template.arguments)

def Subquery.inspect (s : Subquery) : String :=
  inspectRecord "Subquery"
    (("quantifier", s.quantifier.inspect) :: inspectText s.format s.template.arguments)

def Query.inspect (q : Query) : String := inspectRecord "Query" (inspectText q.format q.arguments)

end Winnow
