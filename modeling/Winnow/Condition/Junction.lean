import Winnow.Condition.Clause

/-!
Junctions: clauses under one connective, always in parentheses. A junction has at least one clause.
-/

namespace Winnow

inductive Connective where
  | and
  | or
deriving DecidableEq

namespace Connective

def keyword : Connective → String
  | and => "AND"
  | or => "OR"

def separator (c : Connective) : String := " " ++ c.keyword ++ " "

end Connective

structure Junction where
  connective : Connective
  clauses : List Clause
  template : Template

namespace Junction

def addClauses (connective : Connective) (t : Template) (clauses : List Clause) : Template :=
  clauses.foldl (fun t c => (t.text connective.separator).append c.template) t

/-- The parenthesized text of one clause and others after it. -/
def compile (connective : Connective) (first : Clause) (others : List Clause) : Template :=
  (addClauses connective ((Template.empty.text "(").append first.template) others).text ")"

def ofCons (connective : Connective) (first : Clause) (others : List Clause) : Junction :=
  ⟨connective, first :: others, compile connective first others⟩

/-- The clauses of a list under a connective; there must be one. -/
def ofList (connective : Connective) : List Clause → Except BuildError Junction
  | [] => .error (.emptyGroup connective.keyword)
  | first :: others => .ok (ofCons connective first others)

def both (connective : Connective) (left right : Clause) : Junction :=
  ofCons connective left [right]

def extend (j : Junction) (clause : Clause) : Junction :=
  match j.clauses with
  | [] => ofCons j.connective clause []
  | first :: others => ofCons j.connective first (others ++ [clause])

def format (j : Junction) : String := j.template.render

end Junction

end Winnow
