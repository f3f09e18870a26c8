import Winnow.Argument.Basic
import Winnow.Condition.KeyPath

/-!
Templates: the text of a condition with its field references kept apart, and the arguments of its
placeholders from left to right. A template that was written for an element can be moved under a
variable without writing it anew.
-/

namespace Winnow

inductive Segment where
  | text (s : String)
  /-- A field; the empty path is the element itself. -/
  | field (path : String)
  /-- A field and the point after it. The element itself needs neither. -/
  | owner (path : String)
deriving DecidableEq

namespace Segment

def render : Segment → String
  | text s => s
  | field path => if path.isEmpty then selfExpression else path
  | owner path => if path.isEmpty then "" else path ++ "."

/-- The text of a piece for the element that a variable stands for. -/
def renderUnder (root : String) : Segment → String
  | text s => s
  | field path => if path.isEmpty then root else root ++ "." ++ path
  | owner path => if path.isEmpty then root ++ "." else root ++ "." ++ path ++ "."

def concat (render : Segment → String) : List Segment → String
  | [] => ""
  | s :: rest => render s ++ concat render rest

/-- Adds text at the end: nothing if it is empty, and to the last piece if that is text. -/
def pushText (t : String) : List Segment → List Segment
  | [] => if t.isEmpty then [] else [.text t]
  | [.text s] => [.text (s ++ t)]
  | s :: rest => s :: pushText t rest

def push (segments : List Segment) : Segment → List Segment
  | text t => pushText t segments
  | other => segments ++ [other]

end Segment

/-- The text of a condition, its arguments, and how deep subqueries nest in it. -/
structure Template where
  segments : List Segment := []
  arguments : List Argument := []
  height : Nat := 0

namespace Template

def empty : Template := {}

def text (t : Template) (s : String) : Template :=
  { t with segments := Segment.push t.segments (.text s) }

def field (t : Template) (path : String) : Template :=
  { t with segments := Segment.push t.segments (.field path) }

def owner (t : Template) (path : String) : Template :=
  { t with segments := Segment.push t.segments (.owner path) }

def bind (t : Template) (argument : Argument) : Template :=
  { t.text "?" with arguments := t.arguments ++ [argument] }

def append (t u : Template) : Template :=
  { segments := u.segments.foldl Segment.push t.segments
    arguments := t.arguments ++ u.arguments
    height := max t.height u.height }

/-- The template with every field moved under a variable. -/
def under (t : Template) (root : String) : Template :=
  { t with segments := Segment.pushText (Segment.concat (Segment.renderUnder root) t.segments) [] }

def render (t : Template) : String := Segment.concat Segment.render t.segments

def same (t u : Template) : Bool :=
  t.segments == u.segments && Argument.sameItems t.arguments u.arguments && t.height == u.height

end Template

end Winnow
