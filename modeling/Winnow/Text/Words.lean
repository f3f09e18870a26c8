import Winnow.Text.Case
import Winnow.Text.Cluster

/-!
Names made of words, and the usual ways to join their words. A word ends before an underscore, a
hyphen or a space, which is dropped, where the case rises, where digits begin or end, and before the
last capital of a row of capitals that a small letter follows. Letters and separators count with
their marks.
-/

namespace Winnow.Text

def isCapital (g : List Char) : Bool := upper g != lower g && upper g == g

def isSmall (g : List Char) : Bool := upper g != lower g && lower g == g

def isNumber (g : List Char) : Bool := g.all Char.isDigit

def isSeparator (g : List Char) : Bool := g == ['_'] || g == ['-'] || g == [' ']

/-- A word ends between two clusters, given the one after them. -/
def isBoundary (left right : List Char) (next : Option (List Char)) : Bool :=
  isSmall left && isCapital right || isCapital left && isNumber right ||
    isNumber left && isCapital right || isNumber left && isSmall right ||
    isSmall left && isNumber right || isCapital left && isCapital right && next.any isSmall

/-- The pieces of a name between its word boundaries, some of them empty. -/
def pieces : List (List Char) → List (List Char)
  | [] => [[]]
  | g :: rest =>
    if isSeparator g then [] :: pieces rest
    else
      let ends := match rest with
        | [] => false
        | h :: more => isBoundary g h more.head?
      match pieces rest with
      | [] => [g]
      | word :: words => if ends then g :: word :: words else (g ++ word) :: words

def words (name : List Char) : List (List Char) := (pieces (clusters name)).filter (!·.isEmpty)

inductive NameStyle where
  | camel
  | pascal
  | snake
  | screamingSnake
  | flat
  | upperFlat
deriving DecidableEq

abbrev Conversion := NameStyle → String → String

/-- A word in lower case but for its first letter. -/
def capitalize (word : List Char) : List Char :=
  match clusters word with
  | [] => []
  | g :: rest => upper g ++ lower rest.flatten

namespace NameStyle

def ofText? (text : String) : Option NameStyle :=
  if text = "camelCase" then some camel
  else if text = "PascalCase" then some pascal
  else if text = "snake_case" then some snake
  else if text = "SCREAMING_SNAKE_CASE" then some screamingSnake
  else if text = "lowercase" then some flat
  else if text = "UPPERCASE" then some upperFlat
  else none

def join : NameStyle → List (List Char) → List Char
  | camel, [] => []
  | camel, word :: words => lower word ++ words.flatMap capitalize
  | pascal, words => words.flatMap capitalize
  | snake, words => List.intercalate ['_'] (words.map lower)
  | screamingSnake, words => List.intercalate ['_'] (words.map upper)
  | flat, words => words.flatMap lower
  | upperFlat, words => words.flatMap upper

/-- The conversion that takes names apart into words. -/
def convert : Conversion := fun style name => String.ofList (style.join (words name.toList))

end NameStyle

end Winnow.Text
