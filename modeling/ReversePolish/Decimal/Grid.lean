import ReversePolish.Decimal.Basic

/-!
# The coarsest decimal grid that meets a set of numbers

The multiples of `10 ^ t` form a grid, and the greater `t` is, the fewer digits its points need.

* `neighbours` — the two points of a grid that enclose a number, in the order in which they are
  tried: the nearer first, and of two equally near the larger.
* `coarsest` — the first point met when the grids are tried from a coarse one down and on each grid
  only the two neighbours of the number are asked. When the accepted numbers form an interval
  around that number, a grid with an accepted point has an accepted neighbour, so the point found
  has as few digits as any accepted number and is the nearest of those.
-/

namespace ReversePolish.Decimal

/-- The points `c * 10 ^ t` that enclose `m`, given by their coefficients: the nearer first, of two
equally near the larger first. -/
def neighbours (m t : Nat) : Nat × Nat :=
  let below := m / Nat.pow 10 t
  if 2 * (m % Nat.pow 10 t) < Nat.pow 10 t then (below, below + 1) else (below + 1, below)

/-- The first accepted neighbour of `m` on the grids of `10 ^ t`, `10 ^ (t - 1)`, …, `10`; the
number `m` itself when there is none. -/
def coarsest (accepted : Nat → Bool) (m : Nat) : (t : Nat) → Decimal
  | 0 => ⟨m, 0⟩
  | t + 1 =>
    let candidates := neighbours m (t + 1)
    if accepted (candidates.1 * Nat.pow 10 (t + 1)) then ⟨candidates.1, ↑(t + 1)⟩
    else if accepted (candidates.2 * Nat.pow 10 (t + 1)) then ⟨candidates.2, ↑(t + 1)⟩
    else coarsest accepted m t

end ReversePolish.Decimal
