import Winnow.Condition.Subquery

/-!
Queries: text and arguments, ready to be handed over. The empty query asks nothing and vanishes when
it is combined with another.
-/

namespace Winnow

def truePredicate : String := "TRUEPREDICATE"

def falsePredicate : String := "FALSEPREDICATE"

structure Query where
  format : String
  arguments : List Argument

namespace Query

def empty : Query := ⟨"", []⟩

def always : Query := ⟨truePredicate, []⟩

def never : Query := ⟨falsePredicate, []⟩

def isEmpty (q : Query) : Bool := q.format.isEmpty

def ofTemplate (t : Template) : Query := ⟨t.render, t.arguments⟩

/-- Two queries under a connective. An empty one leaves the other as it is. -/
def combine (connective : Connective) (p q : Query) : Query :=
  if q.isEmpty then p
  else if p.isEmpty then q
  else ⟨"(" ++ p.format ++ connective.separator ++ q.format ++ ")", p.arguments ++ q.arguments⟩

def and (p q : Query) : Query := combine .and p q

def or (p q : Query) : Query := combine .or p q

/-- The text and the arguments for whoever evaluates the query. The empty query is handed over as
the one that always holds. -/
def handOver (q : Query) : String × List Argument :=
  if q.isEmpty then (truePredicate, q.arguments) else (q.format, q.arguments)

/-- A text with its placeholders replaced by the literals of arguments, as far as there are any. -/
def substitute : List Char → List Argument → List Char
  | [], _ => []
  | '?' :: rest, argument :: arguments => argument.literal.toList ++ substitute rest arguments
  | c :: rest, arguments => c :: substitute rest arguments

def display (q : Query) : String :=
  if q.isEmpty then truePredicate else String.ofList (substitute q.format.toList q.arguments)

def same (p q : Query) : Bool :=
  p.format == q.format && Argument.sameItems p.arguments q.arguments

end Query

end Winnow
