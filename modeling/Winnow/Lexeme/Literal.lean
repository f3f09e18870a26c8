import Winnow.Lexeme.Basic
import Winnow.Text.Hexadecimal
import Winnow.Text.Identifier

/-!
Literals at the front of source text. A reader returns the characters of the literal and those after
it.
-/

namespace Winnow.Lexeme

open Text

/-- The characters of a lexeme and those that follow. -/
abbrev Cut := List Char × List Char

def Cut.after (front : List Char) (cut : Cut) : Cut := (front ++ cut.1, cut.2)

def cutWord (text : List Char) : Cut :=
  (text.takeWhile isIdentifierPart, text.dropWhile isIdentifierPart)

def cutName? : List Char → Option Cut
  | [] => none
  | c :: rest => if isIdentifierStart c then some ((cutWord rest).after [c]) else none

def cutSuffix (text : List Char) : Cut := (cutName? text).getD ([], text)

structure Charset where
  /-- A hexadecimal escape has any two digits. -/
  allowsBytes : Bool
  allowsCodes : Bool
  allowsZero : Bool
  allowsWide : Bool

namespace Charset

def text : Charset := ⟨false, true, true, true⟩

def bytes : Charset := ⟨true, false, true, false⟩

/-- Texts that end with a zero byte: everything but that byte. -/
def terminated : Charset := ⟨true, true, false, true⟩

def admits (s : Charset) (c : Char) : Bool :=
  (s.allowsWide || c.toNat < 0x80) && (s.allowsZero || c != '\x00')

def admitsCode (s : Charset) (n : Nat) : Bool := s.allowsZero || n != 0

end Charset

def escaped? (c : Char) : Option Char :=
  if c = 'n' then some '\n'
  else if c = 'r' then some '\r'
  else if c = 't' then some '\t'
  else if c = '\\' ∨ c = '\'' ∨ c = '"' then some c
  else if c = '0' then some '\x00'
  else none

/-- What is open within a quoted text. -/
inductive Escape where
  | none
  /-- A carriage return must be followed by a line feed. -/
  | carriage
  | start
  | byte
  | digit (value : Nat)
  | brace
  | code (value count : Nat)
  | gap
  /-- After a carriage return among those blanks. -/
  | gapCarriage

/-- What a character of a quoted text does: it is part of it and may complete a character of the
value. -/
def Escape.step? (s : Charset) : Escape → Char → Option (Escape × List Char)
  | none, c => plain c
  | carriage, c => if c = '\n' then some (none, ['\n']) else Option.none
  | start, c =>
    if c = 'x' then some (byte, [])
    else if c = 'u' then if s.allowsCodes then some (brace, []) else Option.none
    else if c = '\n' then some (gap, [])
    else if c = '\r' then some (gapCarriage, [])
    else (escaped? c).bind fun d => if s.admitsCode d.toNat then some (none, [d]) else Option.none
  | byte, c =>
    (hexValue? c).bind fun d =>
      if s.allowsBytes || d < 8 then some (digit d, []) else Option.none
  | digit value, c =>
    (hexValue? c).bind fun d =>
      let n := 16 * value + d
      if s.admitsCode n then some (none, [Char.ofNat n]) else Option.none
  | brace, c => if c = '\x7b' then some (code 0 0, []) else Option.none
  | code value count, c =>
    if c = '_' then if count = 0 then Option.none else some (code value count, [])
    else if c = '\x7d' then
      if count = 0 || !s.admitsCode value then Option.none
      else (charAt? value).map fun d => (none, [d])
    else
      (hexValue? c).bind fun d =>
        if count < 6 then some (code (16 * value + d) (count + 1), []) else Option.none
  | gap, c =>
    if c = ' ' ∨ c = '\t' ∨ c = '\n' then some (gap, [])
    else if c = '\r' then some (gapCarriage, [])
    else plain c
  | gapCarriage, c => if c = '\n' then some (gap, []) else Option.none
where
  plain (c : Char) : Option (Escape × List Char) :=
    if c = '\\' then some (start, [])
    else if c = '\r' then some (carriage, [])
    else if s.admits c then some (none, [c])
    else Option.none

structure Quoted where
  value : List Char
  cut : Cut

/-- A quotation mark ends the text where none or only blanks are open. -/
def Escape.mayEnd : Escape → Bool
  | none => true
  | gap => true
  | _ => false

/-- Reads a quoted text up to its quotation mark. What was read is given from its end. -/
def cutQuoted (s : Charset) (e : Escape) (value source : List Char) : List Char → Option Quoted
  | [] => none
  | c :: rest =>
    if c = '"' && e.mayEnd then some ⟨value.reverse, ((c :: source).reverse, rest)⟩
    else
      match e.step? s c with
      | none => none
      | some (next, read) => cutQuoted s next (read ++ value) (c :: source) rest

/-- Reads a raw text up to a quotation mark with the given number of hash signs after it. A carriage
return must be followed by a line feed. -/
def cutRaw (s : Charset) (hashes : Nat) (value : List Char) : List Char → Option Quoted
  | [] => none
  | c :: rest =>
    if c = '"' && rest.take hashes == List.replicate hashes '#' then
      some ⟨value.reverse, (value.reverse ++ '"' :: List.replicate hashes '#', rest.drop hashes)⟩
    else if c = '\r' && rest.head? != some '\n' then none
    else if s.admits c then cutRaw s hashes (c :: value) rest
    else none

def cutText? (s : Charset) : List Char → Option Quoted
  | '"' :: rest => (cutQuoted s .none [] [] rest).map fun q => { q with cut := q.cut.after ['"'] }
  | 'r' :: rest =>
    let hashes := rest.takeWhile (· == '#')
    match rest.dropWhile (· == '#') with
    | '"' :: more =>
      if hashes.length > 255 then none
      else
        (cutRaw s hashes.length [] more).map fun q =>
          { q with cut := q.cut.after ('r' :: hashes ++ ['"']) }
    | _ => none
  | _ => none

def cutCode? (text : List Char) : Option Cut :=
  let isPart (c : Char) : Bool := c == '_' || (hexValue? c).isSome
  let digits := (text.takeWhile isPart).filter (· != '_')
  match text.dropWhile isPart with
  | '\x7d' :: rest =>
    if text.head? == some '_' || digits.isEmpty || digits.length > 6 then none
    else ((ofHex? digits).bind charAt?).map fun _ => (text.takeWhile isPart ++ ['\x7d'], rest)
  | _ => none

def cutCharacter? (s : Charset) : List Char → Option Cut
  | '\\' :: 'x' :: a :: b :: '\'' :: rest =>
    if (hexValue? a).any (fun d => s.allowsBytes || d < 8) && (hexValue? b).isSome then
      some (['\\', 'x', a, b, '\''], rest)
    else none
  | '\\' :: 'u' :: '\x7b' :: rest =>
    if s.allowsCodes then
      match cutCode? rest with
      | some (code, '\'' :: more) => some ('\\' :: 'u' :: '\x7b' :: code ++ ['\''], more)
      | _ => none
    else none
  | '\\' :: c :: '\'' :: rest => (escaped? c).map fun _ => (['\\', c, '\''], rest)
  | '\\' :: _ => none
  | c :: '\'' :: rest => if s.admits c then some ([c, '\''], rest) else none
  | _ => none

def isDigitOrJoint (c : Char) : Bool := c.isDigit || c == '_'

def cutExponent? (hasSign hasDigit : Bool) : List Char → Option Cut
  | [] => if hasDigit then some ([], []) else none
  | c :: rest =>
    if c = '+' ∨ c = '-' then
      if hasDigit then some ([], c :: rest)
      else if hasSign then none
      else (cutExponent? true false rest).map (Cut.after [c])
    else if c.isDigit then (cutExponent? hasSign true rest).map (Cut.after [c])
    else if c = '_' then (cutExponent? hasSign hasDigit rest).map (Cut.after [c])
    else if hasDigit then some ([], c :: rest)
    else none

/-- The digits of a number with a point or an exponent. An exponent without a digit is none. -/
def cutFraction? (text : List Char) : Option Cut :=
  let whole := text.takeWhile isDigitOrJoint
  match text.dropWhile isDigitOrJoint with
  | '.' :: rest =>
    if rest.head?.any fun c => c == '.' || isIdentifierStart c then none
    else
      let front := whole ++ '.' :: rest.takeWhile isDigitOrJoint
      match rest.dropWhile isDigitOrJoint with
      | c :: more =>
        if c = 'e' ∨ c = 'E' then
          match cutExponent? false false more with
          | some cut => some (cut.after (front ++ [c]))
          | none => some (front, c :: more)
        else some (front, c :: more)
      | [] => some (front, [])
  | c :: rest =>
    if c = 'e' ∨ c = 'E' then
      (cutExponent? false false rest).map (Cut.after (whole ++ [c]))
    else none
  | [] => none

def cutDigits? (base : Nat) (front text : List Char) : Option Cut :=
  let isPart (c : Char) : Bool := c == '_' || (hexValue? c).any fun d => d < base || d < 10
  let digits := text.takeWhile isPart
  if digits.all (· == '_') || base == 10 && digits.head? == some '_' then none
  else if digits.any fun c => c.isDigit && !(hexValue? c).any (· < base) then none
  else some (front ++ digits, text.dropWhile isPart)

def cutWhole? : List Char → Option Cut
  | '0' :: 'x' :: rest => cutDigits? 16 ['0', 'x'] rest
  | '0' :: 'o' :: rest => cutDigits? 8 ['0', 'o'] rest
  | '0' :: 'b' :: rest => cutDigits? 2 ['0', 'b'] rest
  | text => cutDigits? 10 [] text

/-- A number takes the name after it as its suffix and ends where no name character follows. -/
def withSuffix? (cut : Cut) : Option Cut :=
  let suffix := cutSuffix cut.2
  if suffix.2.head?.any isIdentifierPart then none else some (suffix.after cut.1)

def cutNumber? (text : List Char) : Option Cut :=
  if text.head?.any Char.isDigit then
    ((cutFraction? text).bind withSuffix?).or ((cutWhole? text).bind withSuffix?)
  else none

def ofCut (front : List Char) (cut : Cut) : Lexeme × List Char :=
  let suffix := cutSuffix cut.2
  (literal .other (String.ofList (front ++ cut.1 ++ suffix.1)), suffix.2)

def readLiteral? (text : List Char) : Option (Lexeme × List Char) :=
  match cutText? .text text with
  | some q =>
    let suffix := cutSuffix q.cut.2
    some (literal (.text (String.ofList q.value) (String.ofList suffix.1))
      (String.ofList (q.cut.1 ++ suffix.1)), suffix.2)
  | none =>
    match text with
    | 'b' :: '\'' :: rest => (cutCharacter? .bytes rest).map (ofCut ['b', '\''])
    | 'b' :: rest => (cutText? .bytes rest).map fun q => ofCut ['b'] q.cut
    | 'c' :: rest => (cutText? .terminated rest).map fun q => ofCut ['c'] q.cut
    | '\'' :: rest => (cutCharacter? .text rest).map (ofCut ['\''])
    | _ =>
      (cutNumber? text).map fun cut => (literal .number (String.ofList cut.1), cut.2)

end Winnow.Lexeme
