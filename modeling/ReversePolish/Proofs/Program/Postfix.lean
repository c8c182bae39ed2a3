import ReversePolish.Proofs.Program.Building

/-!
# Postfix evaluation is the evaluation of trees

A program runs on the values of trees as it builds on the trees themselves.

* **Soundness** (`succeeds_and_final_of_build?`): where it builds, it succeeds and leaves the values
  of what it has built.
* **Completeness** (`exists_build?_of_succeeds`): where it succeeds, it builds.
* **Evaluation** (`succeeds_iff_forestListing`): with the operands of a stack pushed first, a program
  is the postfix notation of some trees iff it succeeds on the stack. There is then one list of such
  trees, and their values are the final stack.
-/

namespace ReversePolish

namespace Program

/-- **Soundness.** Where a program builds trees it succeeds on their values. -/
theorem succeeds_and_final_of_build? {p : Program} {ts us : List Expr}
    (h : p.build? ts = some us) :
    p.Succeeds (ts.map Expr.value) ∧ p.final (ts.map Expr.value) = us.map Expr.value := by
  induction p generalizing ts with
  | nil =>
      cases h
      exact ⟨succeeds_nil _, rfl⟩
  | cons i rest ih =>
      obtain ⟨vs, hi, hrest⟩ := Option.bind_eq_some_iff.mp h
      cases i with
      | operand x =>
          cases hi
          have hrun := ih hrest
          rw [Expr.map_value_append_number] at hrun
          exact ⟨succeeds_operand_cons.mpr hrun.1, hrun.2⟩
      | call c =>
          obtain ⟨op, base, args, e, hc, he, rfl, rfl⟩ := Instruction.build?_call_eq_some hi
          have hx : op.value? (args.map Expr.value) = some e.value := Expr.value?_map_value he
          have hrun := ih hrest
          rw [List.map_append, List.map_singleton] at hrun
          rw [List.map_append, succeeds_call_cons _ hc hx, final_call_cons _ hc hx]
          exact hrun

/-- **Completeness.** Where a program succeeds on the values of trees it builds. -/
theorem exists_build?_of_succeeds {p : Program} {ts : List Expr}
    (h : p.Succeeds (ts.map Expr.value)) : ∃ us, p.build? ts = some us := by
  induction p generalizing ts with
  | nil => exact ⟨ts, rfl⟩
  | cons i rest ih =>
      cases i with
      | operand x =>
          rw [succeeds_operand_cons, ← Expr.map_value_append_number] at h
          exact ih h
      | call c =>
          cases hc : c.resolve with
          | error reason => exact absurd h (not_succeeds_call_cons (Call.run_of_error hc _))
          | ok op =>
              by_cases hlen : ts.length < op.arity
              · have hdepth : (ts.map Expr.value).length < op.arity := by rwa [List.length_map]
                exact absurd h (not_succeeds_call_cons (Call.run_of_length_lt hc hdepth))
              · obtain ⟨base, args, e, rfl, he⟩ :=
                  Expr.exists_node?_of_arity_le (Nat.le_of_not_lt hlen)
                rw [List.map_append, succeeds_call_cons _ hc (Expr.value?_map_value he)] at h
                rw [build?_call_cons base hc he]
                apply ih
                rwa [List.map_append, List.map_singleton]

/-- With the operands of a stack pushed first, a program is the notation of what it builds on their
numbers. -/
theorem forestListing_pushing_append_iff {s : Stack} {p : Program} {es : List Expr} :
    ForestListing es (pushing s ++ p) ↔ p.build? (s.map .number) = some es := by
  rw [forestListing_iff, build?_pushing_append, List.nil_append]

/-- A notation that starts with the operands of a stack succeeds on the stack from there on, and
leaves the values of its trees. -/
theorem succeeds_and_final_of_forestListing {s : Stack} {p : Program} {es : List Expr}
    (h : ForestListing es (pushing s ++ p)) : p.Succeeds s ∧ p.final s = es.map Expr.value := by
  have hrun := succeeds_and_final_of_build? (forestListing_pushing_append_iff.mp h)
  rwa [Expr.map_value_map_number] at hrun

/-- A program that succeeds on a stack is a notation when it starts with the stack's operands. -/
theorem exists_forestListing_of_succeeds {s : Stack} {p : Program} (h : p.Succeeds s) :
    ∃ es, ForestListing es (pushing s ++ p) := by
  rw [← Expr.map_value_map_number s] at h
  obtain ⟨es, hes⟩ := exists_build?_of_succeeds h
  exact ⟨es, forestListing_pushing_append_iff.mpr hes⟩

end Program

/-- The notation of a tree succeeds on every stack and puts the tree's value on top. -/
theorem Listing.succeeds_and_final {e : Expr} {p : Program} (h : Listing e p) (s : Stack) :
    p.Succeeds s ∧ p.final s = s ++ [e.value] := by
  have hbuild : p.build? (s.map .number) = some (s.map .number ++ [e]) := h.build?_eq _
  have hrun := Program.succeeds_and_final_of_build? hbuild
  rwa [List.map_append, Expr.map_value_map_number, List.map_singleton] at hrun

namespace Program

/-- **Evaluation.** A program succeeds on a stack iff, with the operands of the stack pushed before
it, it is the postfix notation of trees, one after another. These trees are unique, and the final
stack is the list of their values. The notation of a single tree succeeds on every stack and leaves
the value of the tree on top. -/
theorem succeeds_iff_forestListing (s : Stack) (p : Program) :
    (p.Succeeds s ↔ ∃ es, ForestListing es (pushing s ++ p)) ∧
    (∀ es, ForestListing es (pushing s ++ p) →
      (∀ fs, ForestListing fs (pushing s ++ p) → fs = es) ∧ p.final s = es.map Expr.value) ∧
    ∀ e q, Listing e q → q.Succeeds s ∧ q.final s = s ++ [e.value] := by
  refine ⟨⟨exists_forestListing_of_succeeds, ?_⟩, ?_, ?_⟩
  · rintro ⟨es, hes⟩
    exact (succeeds_and_final_of_forestListing hes).1
  · intro es hes
    exact ⟨fun fs hfs => hfs.unique hes, (succeeds_and_final_of_forestListing hes).2⟩
  · intro e q hq
    exact hq.succeeds_and_final s

/-- `5 3 -` and a product with the operand below it, on a stack of two. -/
theorem succeeds_iff_forestListing_product_of_difference :
    ForestListing
      [.number 1, .binary .multiply rfl (.number 2) (.binary .subtract rfl (.number 5) (.number 3))]
      (pushing [1, 2] ++
        [.operand 5, .operand 3, .call (.token "-"), .call (.operator .multiply)]) ∧
    Succeeds [1, 2] [.operand 5, .operand 3, .call (.token "-"), .call (.operator .multiply)] ∧
    final [1, 2] [.operand 5, .operand 3, .call (.token "-"), .call (.operator .multiply)] =
      [1, 2 * (5 - 3)] := by
  have hlisting : ForestListing
      [.number 1, .binary .multiply rfl (.number 2) (.binary .subtract rfl (.number 5) (.number 3))]
      (pushing [1, 2] ++
        [.operand 5, .operand 3, .call (.token "-"), .call (.operator .multiply)]) :=
    forestListing_iff.mpr (by decide)
  have hrun := succeeds_iff_forestListing [1, 2]
    [.operand 5, .operand 3, .call (.token "-"), .call (.operator .multiply)]
  exact ⟨hlisting, hrun.1.mpr ⟨_, hlisting⟩, (hrun.2.1 _ hlisting).2⟩

end Program

end ReversePolish
