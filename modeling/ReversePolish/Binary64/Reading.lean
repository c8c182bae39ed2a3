import ReversePolish.Binary64.Numeral
import ReversePolish.Decimal.Reading

/-!
# Reading numerals

* `ofDecimal` — the binary64 number nearest to a decimal, by one rounding of its exact value.
* `ofNumeral?` — the number that a numeral stands for: `NaN`, `inf` or a decimal, the latter two
  after a minus sign or not. The sign of a zero is kept.
-/

namespace ReversePolish.Binary64

/-- The number nearest to the decimal `d`, with the given sign. -/
def ofDecimal (negative : Bool) (d : Decimal) : Float :=
  nearest negative ((d.coefficient * Nat.pow 10 d.exponent.toNat) <<< 1074)
    (Nat.pow 10 (-d.exponent).toNat)

/-- The number of the given sign whose magnitude a text stands for. -/
def ofMagnitude? (negative : Bool) (text : List Char) : Option Float :=
  if text = "inf".toList then some (infinity negative)
  else (Decimal.ofText? text).map (ofDecimal negative)

/-- The number that a numeral stands for. -/
def ofNumeral? (text : List Char) : Option Float :=
  if text = "NaN".toList then some nan
  else match text with
    | '-' :: magnitude => ofMagnitude? true magnitude
    | magnitude => ofMagnitude? false magnitude

end ReversePolish.Binary64
