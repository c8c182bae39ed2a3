import ReversePolish.Program.Basic

/-!
# Expression trees and their postfix notation

* `Expr`, `Expr.value` — trees of operators over numbers, each node with as many children as its
  operator takes, and the number a tree comes to.
* `Listing` — the postfix notation of a tree: its children's notations from left to right, then one
  call for its operator, by token or directly.
* `ForestListing` — the notations of several trees one after another.
-/

namespace ReversePolish

/-- An expression. -/
inductive Expr where
  /-- A number. -/
  | number (x : Float)
  /-- An operator on one operand. -/
  | unary (op : Operator) (arity_eq : op.arity = 1) (operand : Expr)
  /-- An operator on two operands. -/
  | binary (op : Operator) (arity_eq : op.arity = 2) (left right : Expr)
  deriving DecidableEq, Repr

namespace Expr

/-- The number an expression comes to. -/
def value : Expr → Float
  | number x => x
  | unary op h e => (op.value? [e.value]).get (Operator.isSome_value?_iff.mpr h.symm)
  | binary op h l r => (op.value? [l.value, r.value]).get (Operator.isSome_value?_iff.mpr h.symm)

/-- A number on top of expressions has its value on top of theirs. -/
theorem map_value_append_number (es : List Expr) (x : Float) :
    (es ++ [number x]).map value = es.map value ++ [x] :=
  List.map_append

/-- A stack holds the values of its own numbers. -/
theorem map_value_map_number (s : Stack) : (s.map number).map value = s := by
  rw [List.map_map]
  exact List.map_id s

end Expr

/-- The program is the postfix notation of the expression. -/
inductive Listing : Expr → Program → Prop where
  /-- A number is pushed. -/
  | number (x : Float) : Listing (.number x) [.operand x]
  /-- The operand comes before the call. -/
  | unary {op : Operator} {h : op.arity = 1} {e : Expr} {p : Program} {c : Call}
      (operand : Listing e p) (call : c.resolve = .ok op) :
      Listing (.unary op h e) (p ++ [.call c])
  /-- The left operand comes before the right one, and both before the call. -/
  | binary {op : Operator} {h : op.arity = 2} {l r : Expr} {p q : Program} {c : Call}
      (left : Listing l p) (right : Listing r q) (call : c.resolve = .ok op) :
      Listing (.binary op h l r) (p ++ q ++ [.call c])

/-- The program is the postfix notation of the expressions one after another. -/
inductive ForestListing : List Expr → Program → Prop where
  /-- No expression needs no instruction. -/
  | nil : ForestListing [] []
  /-- The first expression comes first. -/
  | cons {e : Expr} {es : List Expr} {p q : Program}
      (first : Listing e p) (rest : ForestListing es q) : ForestListing (e :: es) (p ++ q)

end ReversePolish
