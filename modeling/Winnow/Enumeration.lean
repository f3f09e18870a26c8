import Winnow.Value

/-!
Enumerations without fields. One that is backed by integers is bound by its discriminants, any other
by the names of its variants.
-/

namespace Winnow

/-- A variant, the name it is bound by if it has one of its own, and its discriminant if given. -/
structure Variant where
  name : String
  boundName : Option String := none
  discriminant : Option Int := none

structure Enumeration where
  isBacked : Bool
  variants : List Variant

namespace Enumeration

/-- Variants with their discriminants. One that is not given follows the one before it. -/
def numbered : Int → List Variant → List (Variant × Int)
  | _, [] => []
  | next, v :: rest =>
    let discriminant := v.discriminant.getD next
    (v, discriminant) :: numbered (discriminant + 1) rest

def value? (e : Enumeration) (name : String) : Option Value :=
  ((numbered 0 e.variants).find? (·.1.name == name)).map fun (v, discriminant) =>
    if e.isBacked then .integer discriminant else .text (v.boundName.getD v.name)

end Enumeration

end Winnow
