import ReversePolish.Binary64.Nearest

/-!
# The remainder of truncated division

* `remainder l r` — what is left of `l` after taking away `r` as often as truncated division of the
  exact values says. Both magnitudes are whole numbers of units, so the remainder of the magnitudes
  is a remainder of whole numbers; it has the sign of `l`, also when it is zero, and no rounding
  takes place.
-/

namespace ReversePolish.Binary64

/-- The remainder of `l` by `r`: exact, with the sign of `l`. There is none of an infinite number or
by zero, and a finite number is its own remainder by an infinite one. -/
def remainder (l r : Float) : Float :=
  match datum l, datum r with
  | .finite negative m, .finite _ n => if n = 0 then nan else nearest negative (m % n) 1
  | .finite _ _, .infinite _ => l
  | _, _ => nan

end ReversePolish.Binary64
