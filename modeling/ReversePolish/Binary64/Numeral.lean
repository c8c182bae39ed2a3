import ReversePolish.Binary64.Shortest
import ReversePolish.Decimal.Layout

/-!
# Numerals: the text of a binary64 number

* `NumeralStyle` — the choices a numeral leaves open: which magnitudes are written out in full, and
  whether a whole number shows that it is one.
* `numeral` — the text of a number in a style. Every style gives the shortest decimal that is
  rounded to the number, keeps the sign of a zero and writes `NaN` without one.
-/

namespace ReversePolish.Binary64

/-- How numerals are laid out. -/
structure NumeralStyle where
  /-- The powers of ten `lo` and `hi` such that the magnitudes written out in full are zero and
  those from `10 ^ lo` on and below `10 ^ hi`, all others being written with a power of ten; every
  magnitude is written out when there are none. Powers below `-1074` stand for that one. -/
  fullRange : Option (Int × Int)
  /-- Whether a whole number that is written out ends in `.0`. -/
  marksWhole : Bool
  deriving DecidableEq, Repr

/-- Whether the style writes out a magnitude of `m` units of `10 ^ -1074`. -/
def NumeralStyle.writesOut (style : NumeralStyle) (m : Nat) : Bool :=
  match style.fullRange with
  | none => true
  | some (lo, hi) => m == 0 || Nat.pow 10 (1074 + lo).toNat ≤ m && m < Nat.pow 10 (1074 + hi).toNat

/-- The text of the magnitude with the given code. -/
def magnitudeText (style : NumeralStyle) (code : Nat) : List Char :=
  let d := shortest code
  if style.writesOut (scaled code) then
    d.positional ++ if style.marksWhole && 0 ≤ d.exponent then ['.', '0'] else []
  else d.scientific

/-- The text of a number. -/
def numeral (style : NumeralStyle) (x : Float) : List Char :=
  match datum x with
  | .nan => "NaN".toList
  | .infinite negative => signText negative ++ "inf".toList
  | .finite negative _ => signText negative ++ magnitudeText style (code x)
where
  /-- A minus sign for the negative. -/
  signText (negative : Bool) : List Char := if negative then ['-'] else []

end ReversePolish.Binary64
