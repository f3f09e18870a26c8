import Winnow.Predicate.Basic
import Winnow.Text.Case

/-!
Relations between documents. Numbers are compared as binary numbers, texts after folding, and an
object with an identity by that identity.
-/

namespace Winnow

/-- The letter under a diacritic, for the letters of western Europe. -/
def stripDiacritic (c : Char) : Char :=
  if c ∈ ['à', 'á', 'â', 'ã', 'ä', 'å'] then 'a'
  else if c ∈ ['À', 'Á', 'Â', 'Ã', 'Ä', 'Å'] then 'A'
  else if c = 'ç' then 'c'
  else if c = 'Ç' then 'C'
  else if c ∈ ['è', 'é', 'ê', 'ë'] then 'e'
  else if c ∈ ['È', 'É', 'Ê', 'Ë'] then 'E'
  else if c ∈ ['ì', 'í', 'î', 'ï'] then 'i'
  else if c ∈ ['Ì', 'Í', 'Î', 'Ï'] then 'I'
  else if c = 'ñ' then 'n'
  else if c = 'Ñ' then 'N'
  else if c ∈ ['ò', 'ó', 'ô', 'õ', 'ö'] then 'o'
  else if c ∈ ['Ò', 'Ó', 'Ô', 'Õ', 'Ö'] then 'O'
  else if c ∈ ['ù', 'ú', 'û', 'ü'] then 'u'
  else if c ∈ ['Ù', 'Ú', 'Û', 'Ü'] then 'U'
  else if c ∈ ['ý', 'ÿ'] then 'y'
  else if c = 'Ý' then 'Y'
  else c

/-- A text without the differences that are overlooked. Diacritics go before case. -/
def Folding.fold (f : Folding) (text : String) : List Char :=
  let stripped := if f.ignoresDiacritics then text.toList.map stripDiacritic else text.toList
  if f.ignoresCase then Text.lower stripped else stripped

def occursIn (part : List Char) : List Char → Bool
  | [] => part.isEmpty
  | c :: rest => part.isPrefixOf (c :: rest) || occursIn part rest

namespace Json

/-- What a value is compared by: the identity of an object that has one, or else the value. -/
def identity (v : Json) : Json := (v.get? "id").getD v

def equal (f : Folding) (l r : Json) : Bool :=
  match l.identity, r.identity with
  | number m, number n => m.toDouble.same n.toDouble
  | string s, string t => f.fold s == f.fold t
  | x, y => x.same y

def order? : Json → Json → Option Ordering
  | number m, number n => m.toDouble.compare? n.toDouble
  | string s, string t => some (if s < t then .lt else if s = t then .eq else .gt)
  | _, _ => none

/-- A value lies between two others or is in the place of one of them. -/
def liesBetween (v low high : Json) : Bool :=
  let above := match v.order? low with
    | some .gt => true
    | some .eq => true
    | _ => false
  let below := match v.order? high with
    | some .lt => true
    | some .eq => true
    | _ => false
  above && below

def textTest (test : List Char → List Char → Bool) (f : Folding) : Json → Json → Bool
  | string s, string t => test (f.fold s) (f.fold t)
  | _, _ => false

end Json

def Relation.holds (relation : Relation) (f : Folding) (l r : Json) : Bool :=
  match relation with
  | equal => l.equal f r
  | notEqual => !l.equal f r
  | less => l.order? r == some .lt
  | greater => l.order? r == some .gt
  | member =>
    match r with
    | .array items => items.any (l.equal f ·)
    | _ => false
  | between =>
    match r with
    | .array [low, high] => l.liesBetween low high
    | _ => false
  | contains =>
    match l with
    | .array items => items.any (·.equal f r)
    | _ => Json.textTest (fun s t => occursIn t s) f l r
  | beginsWith => Json.textTest (fun s t => t.isPrefixOf s) f l r
  | endsWith => Json.textTest (fun s t => t.isSuffixOf s) f l r

end Winnow
