import ReversePolish.Decimal.Layout

/-!
# Reading decimal numbers

* `Decimal.ofText?` — the decimal that a text stands for: digits, a point with digits after it if
  there is one, and a power of ten behind the letter `e` if there is one. Both layouts of `Decimal`
  are texts of this kind.
* `Decimal.value?` — the exact number that a text stands for, a minus sign making it negative.
-/

namespace ReversePolish.Decimal

/-- The whole number that a text of one or more digits stands for. -/
def natural? (text : List Char) : Option Nat :=
  if text ≠ [] ∧ text.all Char.isDigit then some (Nat.ofDigitChars 10 text 0) else none

/-- The whole number that a text of digits stands for, a minus sign making it negative. -/
def integer? : List Char → Option Int
  | '-' :: digits => (natural? digits).map fun n => -n
  | digits => (natural? digits).map fun n => n

/-- The digits after a point: at least one when there is a point, none otherwise. -/
def fraction? : List Char → Option (List Char)
  | [] => some []
  | '.' :: d :: digits => some (d :: digits)
  | _ => none

/-- The number that digits stand for, with or without a point between them: the coefficient is that
of all digits together, the exponent counts those after the point. -/
def ofPointed? (text : List Char) : Option Decimal := do
  let whole := text.takeWhile Char.isDigit
  let fraction ← fraction? (text.dropWhile Char.isDigit)
  let coefficient ← natural? (whole ++ fraction)
  if whole = [] then none else some ⟨coefficient, -fraction.length⟩

/-- The number that a text stands for. -/
def ofText? (text : List Char) : Option Decimal := do
  let d ← ofPointed? (text.takeWhile (· != 'e'))
  match text.dropWhile (· != 'e') with
  | [] => some d
  | _ :: power => (integer? power).map fun n => ⟨d.coefficient, d.exponent + n⟩

/-- The exact number that a text stands for, with a minus sign or without one. -/
def value? : (text : List Char) → Option Rat
  | '-' :: magnitude => (ofText? magnitude).map fun d => -d.toRat
  | magnitude => (ofText? magnitude).map toRat

end ReversePolish.Decimal
