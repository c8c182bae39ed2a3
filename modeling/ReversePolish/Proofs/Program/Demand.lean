import ReversePolish.Program.Demand
import ReversePolish.Proofs.Program.Frame

/-!
# The demand of a program is what it needs and all that it uses

* `Program.gain` — the net change of depth over a program. **Maximum** (`demandFrom_le_iff`): the
  demand of a program is the greatest arity of a call less the gain before it, or zero.
* **Sufficiency** (`Resolves.succeeds_iff_demand_le`): a program of which every call is for an
  operator succeeds exactly on the stacks that hold its demand. The invariant is that the depth is
  the number of operands at the start and the gain so far (`Resolves.succeeds_iff_demandFrom_le`).
* **Demand and frame** (`Resolves.demand_frame`): where it succeeds, all operands below the demand
  stay as they are, and the rest of the stack and the events come from the operands of the demand.
-/

namespace ReversePolish.Program

variable {c : Call} {op : Operator} {rest : Program} {reason : Rejection}

/-! ### The demand as a maximum -/

/-- The net change of depth over a program: an operand is one more, a call leaves one for those that
its operator takes. -/
def gain : Program → Int
  | [] => 0
  | .operand _ :: rest => 1 + gain rest
  | .call c :: rest =>
    match c.resolve with
    | .ok op => (1 - op.arity) + gain rest
    | .error _ => gain rest

theorem gain_call_cons (hc : c.resolve = .ok op) :
    gain (.call c :: rest) = (1 - op.arity) + gain rest := by
  simp only [gain, hc]

theorem gain_call_cons_of_error (hc : c.resolve = .error reason) :
    gain (.call c :: rest) = gain rest := by
  simp only [gain, hc]

theorem demandFrom_operand_cons (g : Int) (x : Float) :
    demandFrom g (.operand x :: rest) = demandFrom (g + 1) rest := rfl

theorem demandFrom_call_cons (g : Int) (hc : c.resolve = .ok op) :
    demandFrom g (.call c :: rest) =
      max (op.arity - g) (demandFrom (g + (1 - op.arity)) rest) := by
  simp only [demandFrom, hc]

theorem demandFrom_call_cons_of_error (g : Int) (hc : c.resolve = .error reason) :
    demandFrom g (.call c :: rest) = demandFrom g rest := by
  simp only [demandFrom, hc]

/-- The calls of a program are the first instruction, if it is one, and those of the rest. -/
theorem forall_call_cons {i : Instruction} {P : Program → Call → Prop} :
    (∀ before c after, i :: rest = before ++ .call c :: after → P before c) ↔
      (∀ c, i = .call c → P [] c) ∧
      ∀ before c after, rest = before ++ .call c :: after → P (i :: before) c := by
  constructor
  · intro h
    refine ⟨?_, ?_⟩
    · rintro c rfl
      exact h [] c rest rfl
    · rintro before c after rfl
      exact h (i :: before) c after rfl
  · rintro ⟨hfirst, hlater⟩ before c after hsplit
    cases before with
    | nil =>
        rw [List.nil_append, List.cons.injEq] at hsplit
        exact hfirst c hsplit.1
    | cons j before =>
        rw [List.cons_append, List.cons.injEq] at hsplit
        obtain ⟨rfl, hrest⟩ := hsplit
        exact hlater before c after hrest

/-- **Maximum.** The reach of a program is the least bound, from zero on, of what its calls take less
the gain before them. -/
theorem demandFrom_le_iff {g : Int} {p : Program} {n : Nat} :
    demandFrom g p ≤ n ↔ ∀ before c after, p = before ++ .call c :: after →
      ∀ op, c.resolve = .ok op → op.arity - (g + gain before) ≤ n := by
  induction p generalizing g with
  | nil =>
      refine ⟨?_, fun _ => Int.natCast_nonneg n⟩
      intro _ before c after hsplit
      simp at hsplit
  | cons i rest ih =>
      rw [forall_call_cons]
      cases i with
      | operand x =>
          rw [demandFrom_operand_cons, ih]
          simp only [gain, Int.add_assoc, reduceCtorEq, false_implies, implies_true, true_and]
      | call c =>
          cases hc : c.resolve with
          | error reason =>
              rw [demandFrom_call_cons_of_error g hc, ih]
              simp only [gain_call_cons_of_error hc]
              refine ⟨fun h => ⟨?_, h⟩, fun h => h.2⟩
              rintro _ ⟨rfl⟩ op hop
              rw [hc] at hop
              cases hop
          | ok op =>
              rw [demandFrom_call_cons g hc, Int.max_le, ih]
              simp only [gain_call_cons hc, Int.add_assoc]
              refine and_congr_left fun _ => ⟨?_, ?_⟩
              · rintro hle _ ⟨rfl⟩ op' hop'
                rw [hc] at hop'
                cases hop'
                simpa only [gain, Int.add_zero] using hle
              · intro h
                simpa only [gain, Int.add_zero] using h c rfl op hc

/-! ### Sufficiency -/

/-- The first call of a program is for an operator when all are, and so are the others. -/
theorem Resolves.of_call_cons (h : Resolves (.call c :: rest)) :
    (∃ op, c.resolve = .ok op) ∧ Resolves rest :=
  ⟨h c List.mem_cons_self, fun c' hc' => h c' (List.mem_cons_of_mem _ hc')⟩

/-- What follows an operand is for operators when the whole is. -/
theorem Resolves.of_operand_cons {x : Float} (h : Resolves (.operand x :: rest)) : Resolves rest :=
  fun c' hc' => h c' (List.mem_cons_of_mem _ hc')

/-- **Sufficiency.** With `n` operands at the start and a gain of `g` since, a program succeeds iff
its reach below the start is `n` at most. -/
theorem Resolves.succeeds_iff_demandFrom_le {p : Program} (h : p.Resolves) {s : Stack} {g : Int}
    {n : Nat} (hs : (s.length : Int) = n + g) : p.Succeeds s ↔ demandFrom g p ≤ n := by
  induction p generalizing s g with
  | nil => exact iff_of_true (succeeds_nil s) (Int.natCast_nonneg n)
  | cons i rest ih =>
      cases i with
      | operand x =>
          have hpush : ((s ++ [x]).length : Int) = n + (g + 1) := by
            rw [List.length_append, List.length_singleton]
            omega
          rw [succeeds_operand_cons, demandFrom_operand_cons, ih h.of_operand_cons hpush]
      | call c =>
          obtain ⟨⟨op, hc⟩, hrest⟩ := h.of_call_cons
          rw [demandFrom_call_cons g hc, Int.max_le]
          by_cases hlen : s.length < op.arity
          · -- the call is rejected, and by itself reaches more than `n` below the start
            exact iff_of_false (not_succeeds_call_cons (Call.run_of_length_lt hc hlen)) (by omega)
          · obtain ⟨base, args, x, rfl, hx⟩ :=
              Operator.exists_value?_of_arity_le (Nat.le_of_not_lt hlen)
            have hargs : args.length = op.arity := Operator.length_of_value?_eq_some hx
            rw [List.length_append] at hs
            have hnext : ((base ++ [x]).length : Int) = n + (g + (1 - op.arity)) := by
              rw [List.length_append, List.length_singleton]
              omega
            have hreach : (op.arity : Int) - g ≤ n := by omega
            rw [succeeds_call_cons base hc hx, ih hrest hnext]
            exact (and_iff_right hreach).symm

/-- The demand of a program is a bound iff its reach from the start is. -/
theorem demand_le_iff {p : Program} {n : Nat} : p.demand ≤ n ↔ demandFrom 0 p ≤ n :=
  Int.toNat_le

/-- A program of which every call is for an operator succeeds iff the stack holds its demand. -/
theorem Resolves.succeeds_iff_demand_le {p : Program} (h : p.Resolves) (s : Stack) :
    p.Succeeds s ↔ p.demand ≤ s.length := by
  rw [demand_le_iff]
  exact h.succeeds_iff_demandFrom_le (Int.add_zero _).symm

/-- **Demand and frame.** The demand of a program is the least bound, from zero on, of what its calls
take less the gain before them. When every call is for an operator, the program succeeds on a stack
iff the stack holds the demand; and then the stack's operands below the demand stand unchanged below
every stack of the run, all else being what the program does on the operands of the demand alone. -/
theorem Resolves.demand_frame {p : Program} (h : p.Resolves) (s : Stack) :
    (∀ n : Nat, p.demand ≤ n ↔ ∀ before c after, p = before ++ .call c :: after →
      ∀ op, c.resolve = .ok op → (op.arity : Int) - gain before ≤ n) ∧
    (p.Succeeds s ↔ p.demand ≤ s.length) ∧
    (p.demand ≤ s.length →
      p.run s = (p.run (s.drop (s.length - p.demand))).map
        (Report.onto (s.take (s.length - p.demand))) ∧
      p.final s = s.take (s.length - p.demand) ++ p.final (s.drop (s.length - p.demand))) := by
  refine ⟨?_, h.succeeds_iff_demand_le s, ?_⟩
  · intro n
    rw [demand_le_iff, demandFrom_le_iff]
    simp only [Int.zero_add]
  · intro hdemand
    have htop : p.Succeeds (s.drop (s.length - p.demand)) := by
      rw [h.succeeds_iff_demand_le, List.length_drop]
      omega
    have hs : s.take (s.length - p.demand) ++ s.drop (s.length - p.demand) = s :=
      List.take_append_drop _ s
    have hrun := htop.run_onto (s.take (s.length - p.demand))
    have hfinal := htop.final_onto (s.take (s.length - p.demand))
    rw [hs] at hrun hfinal
    exact ⟨hrun, hfinal⟩

/-- A sum and a product of three operands, with a fourth below that stays. -/
theorem Resolves.demand_frame_sum_product :
    Resolves [.call (.token "+"), .call (.token "*")] ∧
    demand [.call (.token "+"), .call (.token "*")] = 3 ∧
    Succeeds [7, 1, 2, 3] [.call (.token "+"), .call (.token "*")] ∧
    final [7, 1, 2, 3] [.call (.token "+"), .call (.token "*")] =
      [7] ++ final [1, 2, 3] [.call (.token "+"), .call (.token "*")] := by
  have h : Resolves [.call (.token "+"), .call (.token "*")] := by
    intro c hc
    simp only [List.mem_cons, Instruction.call.injEq, List.not_mem_nil, or_false] at hc
    rcases hc with rfl | rfl
    · exact ⟨.add, Call.resolve_token .add⟩
    · exact ⟨.multiply, Call.resolve_token .multiply⟩
  obtain ⟨-, hsucceeds, hframe⟩ := h.demand_frame [7, 1, 2, 3]
  exact ⟨h, by decide, hsucceeds.mpr (by decide), (hframe (by decide)).2⟩

end ReversePolish.Program
