/-!
# Binary64 numbers in units of the smallest one

Every finite binary64 number is a whole number of *units*, a unit being the smallest positive
number, `2 ^ -1074`. Its sign apart, such a number is known by its *code*: the low 63 bits of its
encoding, which order the magnitudes.

* `units` — the magnitude a code stands for, in units. Codes below `2 ^ 52` are the subnormal
  numbers and count the units themselves; above, an exponent field `e + 1` scales a 53-bit
  significand by `2 ^ e`.
* `Datum`, `datum` — what a number is: not a number, infinite, or a sign and a count of units.
* `ofCode`, `nan`, `infinity` — numbers from their parts.
-/

namespace ReversePolish.Binary64

/-- The code of infinity. Smaller codes are the finite magnitudes, larger ones no numbers. -/
def infinityCode : Nat := 0x7ff0000000000000

/-- The number of codes between two powers of two, which is also that of the subnormal numbers:
`2 ^ 52`. -/
def binade : Nat := 0x10000000000000

/-- The magnitude with the given code, in units of `2 ^ -1074`. -/
def units (code : Nat) : Nat :=
  if code < binade then code
  else (binade + code % binade) <<< (code / binade - 1)

/-- What a binary64 number stands for. -/
inductive Datum where
  /-- Not a number. -/
  | nan
  /-- An infinity. -/
  | infinite (negative : Bool)
  /-- A whole number of units of `2 ^ -1074`; the sign is kept also for zero. -/
  | finite (negative : Bool) (units : Nat)
  deriving DecidableEq, Repr

/-- The low 63 bits of the encoding. -/
def code (x : Float) : Nat := x.toBits.toNat % 0x8000000000000000

/-- The sign bit. -/
def isNegative (x : Float) : Bool := decide (0x8000000000000000 ≤ x.toBits.toNat)

/-- What the number `x` stands for. -/
def datum (x : Float) : Datum :=
  if code x < infinityCode then .finite (isNegative x) (units (code x))
  else if code x = infinityCode then .infinite (isNegative x)
  else .nan

/-- The number with the given sign and code. -/
def ofCode (negative : Bool) (code : Nat) : Float :=
  .ofBits (.ofNat ((if negative then 0x8000000000000000 else 0) + code))

/-- The number that is not a number. -/
def nan : Float := .ofBits 0x7ff8000000000000

/-- The infinity of the given sign. -/
def infinity (negative : Bool) : Float := ofCode negative infinityCode

end ReversePolish.Binary64
