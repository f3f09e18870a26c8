import Winnow.Predicate.Evaluation
import Winnow.Predicate.Reader
import Winnow.Query.Basic

/-!
Selection: the elements that satisfy a query. The whole text is read before any element is looked
at.
-/

namespace Winnow

def Predicate.ofText (format : String) (arguments : List Argument) :
    Except QueryFault Predicate :=
  match Token.scanAll format.toList with
  | .error e => .error e
  | .ok tokens => Predicate.ofTokens tokens (Argument.toJsonItems arguments)

/-- The elements that satisfy a text with arguments, in their order. -/
def select {α : Type} (document : α → Json) (format : String) (arguments : List Argument)
    (elements : List α) : Except QueryFault (List α) :=
  match Predicate.ofText format arguments with
  | .error e => .error e
  | .ok p => keepIf (fun x => p.holds (document x) []) elements

def Query.select {α : Type} (document : α → Json) (q : Query) (elements : List α) :
    Except QueryFault (List α) :=
  Winnow.select document q.handOver.1 q.handOver.2 elements

end Winnow
