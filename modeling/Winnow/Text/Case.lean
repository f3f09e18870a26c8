import Winnow.Text.Case.Tables

/-!
Upper and lower case of texts. A character may have an image of several characters, and a capital
sigma at the end of a word has a lowercase form of its own.
-/

namespace Winnow.Text

/-- The image of a character under expansions and runs; a character in neither is its own image. -/
def caseImage (expansions : List (Nat × List Nat)) (runs : List CaseRun) (c : Char) : List Char :=
  match expansions.lookup c.toNat with
  | some image => image.map Char.ofNat
  | none =>
    match CaseRun.image? c.toNat runs with
    | some image => [Char.ofNat image]
    | none => [c]

/-- The lowercase form of a character on its own. -/
def lowerChar (c : Char) : List Char :=
  if c.toNat < 0x80 then [c.toLower] else caseImage lowerExpansions lowerRuns c

def upperChar (c : Char) : List Char :=
  if c.toNat < 0x80 then [c.toUpper] else caseImage upperExpansions upperRuns c

def isCased (c : Char) : Bool := c.isAlpha || inside casedSwitches c.toNat

/-- A character that does not end a word for the final sigma. -/
def isCaseIgnorable (c : Char) : Bool :=
  c ∈ ['\'', '.', ':', '^', '\x60'] || inside ignorableSwitches c.toNat

/-- The nearest character that is not ignorable is a cased letter. -/
def meetsCased (text : List Char) : Bool :=
  match text.dropWhile isCaseIgnorable with
  | [] => false
  | c :: _ => isCased c

/-- The lowercase form of a text that stands after `before`, which is given from its end. -/
def lowerAfter : List Char → List Char → List Char
  | _, [] => []
  | before, c :: rest =>
    let image :=
      if c = 'Σ' then if meetsCased before && !meetsCased rest then ['ς'] else ['σ']
      else lowerChar c
    image ++ lowerAfter (c :: before) rest

def lower (text : List Char) : List Char := lowerAfter [] text

def upper (text : List Char) : List Char := text.flatMap upperChar

def lowercase (text : String) : String := String.ofList (lower text.toList)

end Winnow.Text
