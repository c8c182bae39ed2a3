import ReversePolish.Program.Expr

/-!
# Postfix notation has one reading

* `Expr.node?` — the tree of an operator over trees, when there are as many as the operator takes.
* `Program.build?` — a program run on trees in place of operands: a number is a tree, and a call
  takes the last trees and leaves their node. It ends early where a call would be rejected.
* **Reading** (`forestListing_iff`): a program is the postfix notation of some trees, one after
  another, iff building from nothing ends in just these trees. One half says that a notation builds
  its trees whatever is below (`Listing.build?_eq`), the other that what has been built is at every
  step the notation of the trees that are there (`ForestListing.build`).
* **Unambiguity** (`ForestListing.unique`): no program is the notation of two lists of trees.
-/

namespace ReversePolish

/-! ### Nodes -/

namespace Expr

/-- The tree of `op` over trees; none when their number is not the arity of `op`. -/
def node? (op : Operator) : List Expr → Option Expr
  | [e] => if h : op.arity = 1 then some (.unary op h e) else none
  | [l, r] => if h : op.arity = 2 then some (.binary op h l r) else none
  | _ => none

/-- There is a node exactly over as many trees as the operator takes. -/
theorem isSome_node?_iff {op : Operator} {args : List Expr} :
    (node? op args).isSome ↔ args.length = op.arity := by
  rcases args with _ | ⟨a, _ | ⟨b, _ | ⟨c, rest⟩⟩⟩ <;> cases op <;> simp [node?, Operator.arity]

/-- A node is over one tree or over two. -/
theorem node?_eq_some {op : Operator} {args : List Expr} {e : Expr} (h : node? op args = some e) :
    (∃ harity a, args = [a] ∧ e = unary op harity a) ∨
      ∃ harity l r, args = [l, r] ∧ e = binary op harity l r := by
  unfold node? at h
  split at h
  · split at h
    · cases h
      exact .inl ⟨_, _, rfl, rfl⟩
    · cases h
  · split at h
    · cases h
      exact .inr ⟨_, _, _, rfl, rfl⟩
    · cases h
  · cases h

/-- The value of a node is the operator's value on those of the trees. -/
theorem value?_map_value {op : Operator} {args : List Expr} {e : Expr}
    (h : node? op args = some e) : op.value? (args.map value) = some e.value := by
  rcases node?_eq_some h with ⟨_, a, rfl, rfl⟩ | ⟨_, l, r, rfl, rfl⟩
  · exact (Option.some_get _).symm
  · exact (Option.some_get _).symm

/-- A list that is long enough ends in trees that have a node. -/
theorem exists_node?_of_arity_le {op : Operator} {ts : List Expr} (h : op.arity ≤ ts.length) :
    ∃ base args e, ts = base ++ args ∧ node? op args = some e := by
  obtain ⟨base, args, rfl, hargs⟩ := Operator.exists_append_of_arity_le h
  obtain ⟨e, he⟩ := Option.isSome_iff_exists.mp (isSome_node?_iff.mpr hargs)
  exact ⟨base, args, e, rfl, he⟩

end Expr

/-! ### Building -/

/-- What an instruction makes of the trees `ts`; none when it is a call that they are too few for,
or that comes to no operator. -/
def Instruction.build? (i : Instruction) (ts : List Expr) : Option (List Expr) :=
  match i with
  | operand x => some (ts ++ [.number x])
  | call c =>
    match c.resolve with
    | .ok op =>
      (Expr.node? op (ts.drop (ts.length - op.arity))).map fun e =>
        ts.take (ts.length - op.arity) ++ [e]
    | .error _ => none

/-- What a program makes of the trees `ts`. -/
def Program.build? (ts : List Expr) : Program → Option (List Expr)
  | [] => some ts
  | i :: rest => (i.build? ts).bind fun us => build? us rest

namespace Instruction

/-- A call takes the last trees and leaves their node. -/
theorem build?_call_append {c : Call} {op : Operator} {args : List Expr} {e : Expr}
    (base : List Expr) (hc : c.resolve = .ok op) (he : Expr.node? op args = some e) :
    (call c).build? (base ++ args) = some (base ++ [e]) := by
  have hlen : (base ++ args).length - op.arity = base.length := by
    have hargs : args.length = op.arity := Expr.isSome_node?_iff.mp (by rw [he]; rfl)
    rw [List.length_append]
    omega
  simp only [build?, hc, hlen, List.drop_left, List.take_left, he, Option.map_some]

/-- A call that builds is for an operator and takes the trees of its node. -/
theorem build?_call_eq_some {c : Call} {ts us : List Expr} (h : (call c).build? ts = some us) :
    ∃ op base args e, c.resolve = .ok op ∧ Expr.node? op args = some e ∧ ts = base ++ args ∧
      us = base ++ [e] := by
  unfold build? at h
  cases hc : c.resolve with
  | error reason =>
      simp only [hc] at h
      cases h
  | ok op =>
      simp only [hc] at h
      obtain ⟨e, he, rfl⟩ := Option.map_eq_some_iff.mp h
      exact ⟨op, _, _, e, rfl, he, (List.take_append_drop _ ts).symm, rfl⟩

end Instruction

namespace Program

@[simp] theorem build?_nil (ts : List Expr) : build? ts [] = some ts := rfl

theorem build?_operand_cons (ts : List Expr) (x : Float) (rest : Program) :
    build? ts (.operand x :: rest) = build? (ts ++ [.number x]) rest := rfl

theorem build?_call_cons {c : Call} {op : Operator} {args : List Expr} {e : Expr} {rest : Program}
    (base : List Expr) (hc : c.resolve = .ok op) (he : Expr.node? op args = some e) :
    build? (base ++ args) (.call c :: rest) = build? (base ++ [e]) rest := by
  rw [build?, Instruction.build?_call_append base hc he, Option.bind_some]

/-- A program may be cut anywhere. -/
theorem build?_append (ts : List Expr) (p q : Program) :
    build? ts (p ++ q) = (build? ts p).bind fun us => build? us q := by
  induction p generalizing ts with
  | nil => rfl
  | cons i rest ih =>
      rw [List.cons_append, build?, build?, Option.bind_assoc]
      simp only [ih]

/-- A program that pushes operands builds numbers. -/
theorem build?_pushing_append (s : Stack) (ts : List Expr) (p : Program) :
    build? ts (pushing s ++ p) = build? (ts ++ s.map .number) p := by
  induction s generalizing ts with
  | nil => rw [List.map_nil, List.append_nil]; rfl
  | cons x rest ih =>
      rw [pushing, List.map_cons, List.cons_append, build?_operand_cons]
      rw [← pushing, ih, List.map_cons, List.append_assoc, List.singleton_append]

end Program

/-! ### Notations build their trees -/

/-- The notation of a tree builds it, whatever is below. -/
theorem Listing.build?_eq {e : Expr} {p : Program} (h : Listing e p) (ts : List Expr) :
    p.build? ts = some (ts ++ [e]) := by
  induction h generalizing ts with
  | number x => rfl
  | @unary op harity e p c _ hc ih =>
      have he : Expr.node? op [e] = some (.unary op harity e) := dif_pos harity
      rw [Program.build?_append, ih, Option.bind_some, Program.build?_call_cons ts hc he]
      rfl
  | @binary op harity l r p q c _ _ hc ihl ihr =>
      have he : Expr.node? op [l, r] = some (.binary op harity l r) := dif_pos harity
      rw [Program.build?_append, Program.build?_append, ihl, Option.bind_some, ihr,
        Option.bind_some, List.append_assoc, List.singleton_append,
        Program.build?_call_cons ts hc he]
      rfl

/-- The notation of several trees builds them, whatever is below. -/
theorem ForestListing.build?_eq {es : List Expr} {p : Program} (h : ForestListing es p)
    (ts : List Expr) : p.build? ts = some (ts ++ es) := by
  induction h generalizing ts with
  | nil => rw [List.append_nil]; rfl
  | cons hfirst _ ih =>
      rw [Program.build?_append, hfirst.build?_eq, Option.bind_some, ih, List.append_assoc,
        List.singleton_append]

/-! ### What is built is a notation -/

namespace ForestListing

/-- A tree's notation is that of a forest of one. -/
theorem singleton {e : Expr} {p : Program} (h : Listing e p) : ForestListing [e] p := by
  have hforest : ForestListing [e] (p ++ []) := .cons h .nil
  rwa [List.append_nil] at hforest

/-- The notations of two forests, one after the other, are that of both. -/
theorem append {es fs : List Expr} {p q : Program} (hp : ForestListing es p)
    (hq : ForestListing fs q) : ForestListing (es ++ fs) (p ++ q) := by
  induction hp with
  | nil => exact hq
  | cons hfirst _ ih =>
      rw [List.append_assoc, List.cons_append]
      exact .cons hfirst ih

/-- The notation of two forests is that of the one and then that of the other. -/
theorem of_append {es fs : List Expr} {r : Program} (h : ForestListing (es ++ fs) r) :
    ∃ p q, r = p ++ q ∧ ForestListing es p ∧ ForestListing fs q := by
  induction es generalizing r with
  | nil => exact ⟨[], r, rfl, .nil, h⟩
  | cons e es ih =>
      cases h with
      | @cons _ _ p₁ r₁ hfirst hrest =>
          obtain ⟨p₂, q, rfl, hes, hfs⟩ := ih hrest
          exact ⟨p₁ ++ p₂, q, (List.append_assoc _ _ _).symm, .cons hfirst hes, hfs⟩

/-- The notations of the trees under a node, and then a call of its operator, are that of the
node. -/
theorem listing_of_node? {op : Operator} {args : List Expr} {e : Expr} {p : Program} {c : Call}
    (h : ForestListing args p) (he : Expr.node? op args = some e) (hc : c.resolve = .ok op) :
    Listing e (p ++ [.call c]) := by
  rcases Expr.node?_eq_some he with ⟨_, a, rfl, rfl⟩ | ⟨_, l, r, rfl, rfl⟩
  · cases h with
    | cons ha hnil =>
        cases hnil
        rw [List.append_nil]
        exact .unary ha hc
  · cases h with
    | cons hl hr =>
        cases hr with
        | cons hr hnil =>
            cases hnil
            rw [List.append_nil]
            exact .binary hl hr hc

/-- **One step.** An instruction adds itself to the notation of the trees that it builds on. -/
theorem instruction {ts us : List Expr} {p : Program} {i : Instruction}
    (h : ForestListing ts p) (hi : i.build? ts = some us) : ForestListing us (p ++ [i]) := by
  cases i with
  | operand x =>
      cases hi
      exact h.append (singleton (.number x))
  | call c =>
      obtain ⟨op, base, args, e, hc, he, rfl, rfl⟩ := Instruction.build?_call_eq_some hi
      -- the call closes the part of the notation that belongs to the trees it takes
      obtain ⟨p, q, rfl, hbase, hargs⟩ := h.of_append
      rw [List.append_assoc]
      exact hbase.append (singleton (hargs.listing_of_node? he hc))

/-- **All steps.** A program adds itself to the notation of the trees that it builds on. -/
theorem build {ts us : List Expr} {p q : Program} (h : ForestListing ts p)
    (hq : q.build? ts = some us) : ForestListing us (p ++ q) := by
  -- what has been read moves from `q` to `p`, so the notation read so far is general
  induction q generalizing ts p with
  | nil =>
      cases hq
      rwa [List.append_nil]
  | cons i rest ih =>
      obtain ⟨vs, hi, hrest⟩ := Option.bind_eq_some_iff.mp hq
      have hnext : ForestListing us (p ++ [i] ++ rest) := ih (h.instruction hi) hrest
      rwa [List.append_assoc, List.singleton_append] at hnext

end ForestListing

/-- **Reading.** A program is the notation of just those trees that it builds from nothing. -/
theorem forestListing_iff {es : List Expr} {p : Program} :
    ForestListing es p ↔ p.build? [] = some es :=
  ⟨fun h => h.build?_eq [], fun h => ForestListing.nil.build h⟩

/-- **Unambiguity.** A program is the notation of one list of trees at most. -/
theorem ForestListing.unique {es fs : List Expr} {p : Program} (hes : ForestListing es p)
    (hfs : ForestListing fs p) : es = fs := by
  rw [forestListing_iff] at hes hfs
  exact Option.some.inj (hes.symm.trans hfs)

end ReversePolish
