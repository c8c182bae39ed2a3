/-!
# Operators and their tokens

* `Operator` — the seven operators of the calculator; `Operator.all` lists them in catalogue order.
* `token`, `arity`, `name` — how an operator is written, how many operands it takes, and what it is
  called in a report.
* `ofToken?` — the operator written by a text, found by one scan of the catalogue. **Exactness**
  (`ofToken?_eq_some_iff`): a text is recognised as an operator iff it is that operator's token,
  character for character. This rests on the scan seeing every operator (`mem_all`) and on no two
  operators sharing a token (`token_injective`).
-/

namespace ReversePolish

/-- An arithmetic operator. -/
inductive Operator where
  /-- The sum of two operands. -/
  | add
  /-- The left operand less the right one. -/
  | subtract
  /-- The product of two operands. -/
  | multiply
  /-- The left operand over the right one. -/
  | divide
  /-- The square root of one operand. -/
  | squareRoot
  /-- The left operand raised to the right one. -/
  | power
  /-- The remainder of truncated division, with the sign of the left operand. -/
  | modulo
  deriving DecidableEq, Repr

namespace Operator

/-- The catalogue: every operator once, in its fixed order. -/
def all : List Operator :=
  [add, subtract, multiply, divide, squareRoot, power, modulo]

/-- The catalogue is complete. -/
theorem mem_all (op : Operator) : op ∈ all := by
  cases op <;> decide

/-- The catalogue lists no operator twice. -/
theorem nodup_all : all.Nodup := by
  decide

/-- The name of an operator in reports. -/
def name : Operator → String
  | add => "Add"
  | subtract => "Subtract"
  | multiply => "Multiply"
  | divide => "Divide"
  | squareRoot => "SquareRoot"
  | power => "Power"
  | modulo => "Modulo"

/-- The text an operator is written with, in expressions, messages and patterns alike. -/
def token : Operator → String
  | add => "+"
  | subtract => "-"
  | multiply => "*"
  | divide => "/"
  | squareRoot => "sqrt"
  | power => "^"
  | modulo => "%"

instance : ToString Operator where
  toString := token

/-- The number of operands an operator takes. -/
def arity : Operator → Nat
  | squareRoot => 1
  | _ => 2

/-- No operator is without operands. -/
theorem arity_pos (op : Operator) : 0 < op.arity := by
  cases op <;> decide

/-- A list that is long enough ends in as many items as an operator takes. -/
theorem exists_append_of_arity_le {α : Type} {op : Operator} {items : List α}
    (h : op.arity ≤ items.length) :
    ∃ base args, items = base ++ args ∧ args.length = op.arity := by
  refine ⟨_, _, (List.take_append_drop (items.length - op.arity) items).symm, ?_⟩
  rw [List.length_drop]
  omega

/-- Different operators are written differently. -/
theorem token_injective {op op' : Operator} (h : op.token = op'.token) : op = op' := by
  revert h
  cases op <;> cases op' <;> decide

/-- No token is empty. -/
theorem token_ne_nil (op : Operator) : op.token.toList ≠ [] := by
  cases op <;> decide

/-- Different operators are written with different first characters. -/
theorem head?_token_injective {op op' : Operator}
    (h : op.token.toList.head? = op'.token.toList.head?) : op = op' := by
  revert h
  cases op <;> cases op' <;> decide

/-- A text that begins with a token has the first character of that token. -/
theorem head?_token_append (op : Operator) (rest : List Char) :
    (op.token.toList ++ rest).head? = op.token.toList.head? := by
  rw [List.head?_append, List.head?_eq_some_head op.token_ne_nil]
  rfl

/-- No token begins another, so a text that begins with a token tells which one and what follows. -/
theorem token_append_inj {op op' : Operator} {rest rest' : List Char}
    (h : op.token.toList ++ rest = op'.token.toList ++ rest') : op = op' ∧ rest = rest' := by
  have hhead := congrArg List.head? h
  rw [head?_token_append, head?_token_append] at hhead
  obtain rfl := head?_token_injective hhead
  exact ⟨rfl, List.append_cancel_left h⟩

/-! ### Recognition -/

/-- The first operator of the catalogue written exactly as `t`, case and spaces included. -/
def ofToken? (t : String) : Option Operator :=
  all.find? fun op => op.token == t

/-- The operator named `n`. -/
def ofName? (n : String) : Option Operator :=
  all.find? fun op => op.name == n

/-- **Exactness.** A text is recognised as an operator iff it is that operator's token. -/
theorem ofToken?_eq_some_iff {t : String} {op : Operator} :
    ofToken? t = some op ↔ op.token = t := by
  constructor
  · intro h
    simpa using List.find?_some h
  · intro h
    cases hf : ofToken? t with
    | none => exact absurd h (by simpa using List.find?_eq_none.mp hf op (mem_all op))
    | some op' =>
      have h' : op'.token = t := by simpa using List.find?_some hf
      rw [token_injective (h'.trans h.symm)]

/-- Every operator is recognised from its own token. -/
@[simp] theorem ofToken?_token (op : Operator) : ofToken? op.token = some op :=
  ofToken?_eq_some_iff.mpr rfl

/-- A text is refused iff it is no operator's token. -/
theorem ofToken?_eq_none_iff {t : String} : ofToken? t = none ↔ ∀ op : Operator, op.token ≠ t := by
  simp [ofToken?, mem_all]

/-- Every operator is recognised from its own name. -/
@[simp] theorem ofName?_name (op : Operator) : ofName? op.name = some op := by
  cases op <;> decide

end Operator

end ReversePolish
