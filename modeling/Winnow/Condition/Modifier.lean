/-!
Modifiers of text comparisons. They follow an operator as letters in brackets, in the order in which
they were given; order and repetition do not change what matches.
-/

namespace Winnow

/-- A difference between texts that a comparison overlooks. -/
inductive Modifier where
  | caseInsensitive
  | diacriticInsensitive
  | localeInsensitive
deriving DecidableEq

def Modifier.code : Modifier → Char
  | caseInsensitive => 'c'
  | diacriticInsensitive => 'd'
  | localeInsensitive => 'l'

def Modifier.ofCode? (c : Char) : Option Modifier :=
  if c = 'c' then some caseInsensitive
  else if c = 'd' then some diacriticInsensitive
  else if c = 'l' then some localeInsensitive
  else none

/-- A list of modifiers in the order they were given in. -/
structure Modifiers where
  toList : List Modifier
deriving DecidableEq

namespace Modifiers

def none : Modifiers := ⟨[]⟩

def folded : Modifiers := ⟨[.caseInsensitive, .diacriticInsensitive]⟩

def all : Modifiers := ⟨[.caseInsensitive, .diacriticInsensitive, .localeInsensitive]⟩

def push (m : Modifiers) (modifier : Modifier) : Modifiers := ⟨m.toList ++ [modifier]⟩

def isEmpty (m : Modifiers) : Bool := m.toList.isEmpty

def contains (m : Modifiers) (modifier : Modifier) : Bool := m.toList.contains modifier

/-- The suffix of an operator: nothing, or the letters in brackets. -/
def encode (m : Modifiers) : String :=
  if m.isEmpty then "" else String.ofList ('[' :: m.toList.map Modifier.code ++ [']'])

end Modifiers

end Winnow
