import Winnow.Declaration.Entry

/-!
Generated code: the parts that both kinds of derived code share.
-/

namespace Winnow

namespace Phrase

/-- The library that generated code refers to, unless a declaration names another one. -/
def library : Phrase := Lexeme.operator "::" ++ [.word "safepred"]

def member (owner : Phrase) (name : String) : Phrase :=
  owner ++ Lexeme.operator "::" ++ [.word name]

def call (function arguments : Phrase) : Phrase := function ++ [.group .round arguments]

def annotated (content : Phrase) : Phrase := Lexeme.operator "#" ++ [.group .square content]

def documented (text : Lexeme) : Phrase :=
  annotated (.word "doc" :: Lexeme.operator "=" ++ [text])

def receiver : Phrase := Lexeme.operator "&" ++ [.word "self"]

end Phrase

/-- A type that values are bound of. -/
structure Owner where
  name : Identifier
  generics : Generics
  library : Phrase

namespace Owner

open Phrase

def type (o : Owner) : Phrase := o.name.lexeme :: o.generics.applied

/-- The statement that values of the type are bound to what an expression gives. -/
def bindImplementation (o : Owner) (body : Phrase) : Phrase :=
  .word "impl" :: o.generics.introduced ++ member o.library "Bindable" ++ .word "for" :: o.type ++
    o.generics.conditions ++
    [.group .curly
      (.word "fn" :: call [.word "bind"] receiver ++ Lexeme.operator "->" ++
        member o.library "Argument" ++ [.group .curly body])]

def bindCall (o : Owner) (expression : Phrase) : Phrase :=
  call (member (member o.library "Bindable") "bind") (Lexeme.operator "&" ++ expression)

end Owner

def Entry.library (e : Entry) (rest : List Lexeme) : Except DeriveFault Phrase := do
  let (value, rest) ← e.text rest
  match value.path with
  | .error fault => throw (.syntaxFault fault)
  | .ok path =>
    Entry.finish rest
    return path

end Winnow
