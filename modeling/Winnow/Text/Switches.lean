/-!
Sets of code points, given by the increasing list of points at which membership switches on and off.
-/

namespace Winnow.Text

/-- A code point lies between a switch on and the next switch off. -/
def inside : List Nat → Nat → Bool
  | on :: off :: rest, n => if n < on then false else if n < off then true else inside rest n
  | _, _ => false

end Winnow.Text
