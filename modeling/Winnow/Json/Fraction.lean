import Winnow.Json.Basic
import Winnow.Number.Layout
import Winnow.Number.Numeral

/-!
Fractions in the text of documents. The digits that a fraction is written with, and the fraction
that digits are read as, are no part of the format of documents: a `FractionFormat` chooses both.
-/

namespace Winnow

structure FractionFormat where
  write : Finite .double → String
  /-- The fraction of a numeral, unless it is too large for one. -/
  read? : String → Option (Finite .double)

/-- The shortest digits that tell a fraction apart, and the fraction nearest to some digits. -/
def FractionFormat.nearest : FractionFormat where
  write x := String.ofList (Layout.json.write x.toDecimal)
  read? text :=
    (Numeral.ofText? text.toList).bind fun n =>
      match n.value.toBinary .double with
      | .finite x => some x
      | _ => none

end Winnow
