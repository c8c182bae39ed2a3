import Mathlib.Order.Lattice
import ReversePolish.Proofs.Pattern.Reading

/-!
# The pattern finds the words that are operator tokens

* `Text.slice`, `Text.IsSolid`, `Text.IsWordAt` — the piece of a text between two positions, whether
  it is free of white space, and whether it is a word: a piece free of white space, not empty, that
  is part of no longer one.
* `Text.StartsAt`, `Text.StopsAt` — where a word may start and stop: at an end of the text or next to
  white space. **Words** (`isWordAt_iff`): these are just the boundaries of a word, so two words that
  start at one position are the same (`IsWordAt.stop_unique`).
* **Matches** (`wholeToken_matches_words`): the pattern for whole tokens matches a piece of a text iff
  boundaries are on both sides of it and it is recognised as an operator, that is, iff it is such a
  word.
-/

namespace ReversePolish

namespace Text

/-! ### Pieces -/

/-- The piece of `text` from the position `i` to the position `j`. -/
def slice (text : List Char) (i j : Nat) : List Char := (text.drop i).take (j - i)

/-- The piece between the positions is free of white space. -/
def IsSolid (text : List Char) (i j : Nat) : Prop := ∀ c ∈ slice text i j, isSpace c = false

/-- The piece between the positions is a word: free of white space, not empty, and part of no longer
piece that is free of white space. -/
structure IsWordAt (text : List Char) (i j : Nat) : Prop where
  /-- It is not empty. -/
  lt : i < j
  /-- It ends within the text. -/
  le : j ≤ text.length
  /-- It is free of white space. -/
  solid : IsSolid text i j
  /-- It is part of no longer piece of this kind. -/
  maximal : ∀ i' j', i' ≤ i → j ≤ j' → j' ≤ text.length → IsSolid text i' j' → i' = i ∧ j' = j

/-- A word may start at `i`: at the start of the text or after white space. -/
def StartsAt (text : List Char) (i : Nat) : Prop :=
  i = 0 ∨ ∃ c, text[i - 1]? = some c ∧ isSpace c = true

/-- A word may stop at `j`: at the end of the text or before white space. -/
def StopsAt (text : List Char) (j : Nat) : Prop :=
  j = text.length ∨ ∃ c, text[j]? = some c ∧ isSpace c = true

variable {text : List Char} {i j k : Nat}

/-- The characters of a piece are those at the positions from its start on and before its end. -/
theorem mem_slice_iff {c : Char} :
    c ∈ slice text i j ↔ ∃ k, i ≤ k ∧ k < j ∧ text[k]? = some c := by
  unfold slice
  rw [List.mem_iff_getElem?]
  constructor
  · rintro ⟨n, hn⟩
    obtain ⟨hlt, hn⟩ : n < j - i ∧ text[i + n]? = some c := by
      simpa [List.getElem?_take] using hn
    exact ⟨i + n, by omega, by omega, hn⟩
  · rintro ⟨k, hik, hkj, hk⟩
    refine ⟨k - i, ?_⟩
    rw [List.getElem?_take_of_lt (by omega), List.getElem?_drop, Nat.add_sub_cancel' hik, hk]

/-- A piece is free of white space iff all its positions are. -/
theorem isSolid_iff :
    IsSolid text i j ↔ ∀ k c, i ≤ k → k < j → text[k]? = some c → isSpace c = false := by
  constructor
  · intro h k c hik hkj hk
    exact h c (mem_slice_iff.mpr ⟨k, hik, hkj, hk⟩)
  · intro h c hc
    obtain ⟨k, hik, hkj, hk⟩ := mem_slice_iff.mp hc
    exact h k c hik hkj hk

/-! ### Words -/

/-- A piece free of white space that reaches back over a place where a word may start begins there. -/
theorem IsSolid.eq_of_startsAt (hsolid : IsSolid text k j) (hki : k ≤ i) (hij : i < j)
    (hstart : StartsAt text i) : k = i := by
  obtain rfl | ⟨c, hc, hspace⟩ := hstart
  · omega
  · by_contra hne
    have hfree := isSolid_iff.mp hsolid (i - 1) c (by omega) (by omega) hc
    exact absurd hspace (by simp [hfree])

/-- A piece free of white space that reaches over a place where a word may stop ends there. -/
theorem IsSolid.eq_of_stopsAt (hsolid : IsSolid text i k) (hij : i ≤ j) (hjk : j ≤ k)
    (hk : k ≤ text.length) (hstop : StopsAt text j) : k = j := by
  obtain rfl | ⟨c, hc, hspace⟩ := hstop
  · omega
  · by_contra hne
    have hfree := isSolid_iff.mp hsolid j c hij (by omega) hc
    exact absurd hspace (by simp [hfree])

/-- A word starts where words may. -/
theorem IsWordAt.startsAt (h : IsWordAt text i j) : StartsAt text i := by
  obtain ⟨hlt, hle, hsolid, hmaximal⟩ := h
  by_cases hi : i = 0
  · exact .inl hi
  · -- otherwise the piece from the position before on would be free of white space as well
    have hc : text[i - 1]? = some text[i - 1] := List.getElem?_eq_getElem (by omega)
    refine .inr ⟨_, hc, ?_⟩
    by_contra hspace
    have hlonger : IsSolid text (i - 1) j := by
      refine isSolid_iff.mpr fun k c hik hkj hk => ?_
      by_cases hki : i ≤ k
      · exact isSolid_iff.mp hsolid k c hki hkj hk
      · obtain rfl : k = i - 1 := by omega
        rw [hc, Option.some.injEq] at hk
        rw [← hk]
        exact Bool.eq_false_iff.mpr hspace
    have := (hmaximal (i - 1) j (by omega) le_rfl hle hlonger).1
    omega

/-- A word stops where words may. -/
theorem IsWordAt.stopsAt (h : IsWordAt text i j) : StopsAt text j := by
  obtain ⟨hlt, hle, hsolid, hmaximal⟩ := h
  by_cases hj : j = text.length
  · exact .inl hj
  · have hc : text[j]? = some text[j] := List.getElem?_eq_getElem (by omega)
    refine .inr ⟨_, hc, ?_⟩
    by_contra hspace
    have hlonger : IsSolid text i (j + 1) := by
      refine isSolid_iff.mpr fun k c hik hkj hk => ?_
      by_cases hkj' : k < j
      · exact isSolid_iff.mp hsolid k c hik hkj' hk
      · obtain rfl : k = j := by omega
        rw [hc, Option.some.injEq] at hk
        rw [← hk]
        exact Bool.eq_false_iff.mpr hspace
    have := (hmaximal i (j + 1) le_rfl (by omega) (by omega) hlonger).2
    omega

/-- **Words.** A piece that is free of white space and not empty is a word iff it stands where words
may start and stop. -/
theorem isWordAt_iff (hij : i < j) (hj : j ≤ text.length) (hsolid : IsSolid text i j) :
    IsWordAt text i j ↔ StartsAt text i ∧ StopsAt text j := by
  constructor
  · intro h
    exact ⟨h.startsAt, h.stopsAt⟩
  · rintro ⟨hstart, hstop⟩
    refine ⟨hij, hj, hsolid, fun i' j' hi' hj' hlength hlonger => ⟨?_, ?_⟩⟩
    · exact hlonger.eq_of_startsAt hi' (by omega) hstart
    · exact hlonger.eq_of_stopsAt (by omega) hj' hlength hstop

/-- Two words that start at one position are the same. -/
theorem IsWordAt.stop_unique (h : IsWordAt text i j) (h' : IsWordAt text i k) : j = k := by
  rcases le_total j k with hjk | hkj
  · exact (h'.solid.eq_of_stopsAt h.lt.le hjk h'.le h.stopsAt).symm
  · exact h.solid.eq_of_stopsAt h'.lt.le hkj h.le h'.stopsAt

/-! ### What stands before and after a position -/

/-- What stands before a position is nothing or ends in white space iff a word may start there. -/
theorem startsAt_iff (hi : i ≤ text.length) :
    (text.take i = [] ∨ ∃ u c, text.take i = u ++ [c] ∧ isSpace c = true) ↔ StartsAt text i := by
  have hlast : ∀ c, (∃ u, text.take i = u ++ [c]) ↔ i ≠ 0 ∧ text[i - 1]? = some c := by
    intro c
    rw [← List.getLast?_eq_some_iff, List.getLast?_take]
    by_cases h0 : i = 0
    · simp [h0]
    · have hsome : text[i - 1]? = some text[i - 1] := List.getElem?_eq_getElem (by omega)
      simp [h0, hsome]
  unfold StartsAt
  constructor
  · rintro (hnil | ⟨u, c, hu, hc⟩)
    · rw [List.take_eq_nil_iff] at hnil
      obtain rfl | rfl := hnil
      · exact .inl rfl
      · exact .inl (by simpa using hi)
    · exact .inr ⟨c, ((hlast c).mp ⟨u, hu⟩).2, hc⟩
  · rintro (rfl | ⟨c, hc, hspace⟩)
    · exact .inl List.take_zero
    · by_cases h0 : i = 0
      · exact .inl (by rw [h0, List.take_zero])
      · obtain ⟨u, hu⟩ := (hlast c).mpr ⟨h0, hc⟩
        exact .inr ⟨u, c, hu, hspace⟩

/-- What stands after a position is nothing or begins with white space iff a word may stop there. -/
theorem stopsAt_iff (hj : j ≤ text.length) :
    (text.drop j = [] ∨ ∃ c v, text.drop j = c :: v ∧ isSpace c = true) ↔ StopsAt text j := by
  have hhead : ∀ c, (∃ v, text.drop j = c :: v) ↔ text[j]? = some c := by
    intro c
    rw [← List.head?_eq_some_iff, List.head?_drop]
  unfold StopsAt
  constructor
  · rintro (hnil | ⟨c, v, hv, hc⟩)
    · rw [List.drop_eq_nil_iff] at hnil
      exact .inl (le_antisymm hj hnil)
    · exact .inr ⟨c, (hhead c).mp ⟨v, hv⟩, hc⟩
  · rintro (rfl | ⟨c, hc, hspace⟩)
    · exact .inl List.drop_length
    · obtain ⟨v, hv⟩ := (hhead c).mpr hc
      exact .inr ⟨c, v, hv, hspace⟩

end Text

namespace Operator

open Text

/-- A piece is the token of an operator in the catalogue iff it is recognised. -/
theorem exists_mem_all_iff {piece : List Char} :
    (∃ op ∈ all, piece = op.token.toList) ↔ (ofToken? (.ofList piece)).isSome := by
  simp only [Option.isSome_iff_exists, ofToken?_eq_some_iff]
  constructor
  · rintro ⟨op, -, rfl⟩
    exact ⟨op, String.ofList_toList.symm⟩
  · rintro ⟨op, hop⟩
    exact ⟨op, mem_all op, by rw [hop, String.toList_ofList]⟩

variable {text : List Char} {i j : Nat}

/-- A piece that is recognised as an operator is not empty and free of white space. -/
theorem lt_and_isSolid_of_isSome (h : (ofToken? (.ofList (slice text i j))).isSome) :
    i < j ∧ IsSolid text i j := by
  obtain ⟨op, -, hop⟩ := exists_mem_all_iff.mpr h
  constructor
  · by_contra hji
    have hnil : slice text i j = [] := by
      unfold slice
      rw [Nat.sub_eq_zero_of_le (by omega), List.take_zero]
    exact op.token_ne_nil (hop.symm.trans hnil)
  · intro c hc
    exact isSpace_of_mem_token (hop ▸ hc)

end Operator

namespace Pattern

open Text

/-- **Matches.** The pattern for whole tokens is the text of a regular expression. It matches a piece
of a text iff words may start and stop at the ends of the piece and the piece is recognised as an
operator, that is, iff the piece is a word that is recognised as one; so at most one match starts at
a position, and no match holds white space. -/
theorem wholeToken_matches_words :
    ∃ r, Regex.ofText? wholeToken = some r ∧
      ∀ (text : List Char) (i j : Nat), i ≤ j → j ≤ text.length →
        (r.MatchesAt text i j ↔ StartsAt text i ∧ StopsAt text j ∧
          (Operator.ofToken? (.ofList (slice text i j))).isSome) ∧
        (r.MatchesAt text i j ↔ IsWordAt text i j ∧
          (Operator.ofToken? (.ofList (slice text i j))).isSome) ∧
        (r.MatchesAt text i j → ∀ k, i ≤ k → k ≤ text.length → r.MatchesAt text i k → k = j) ∧
        (r.MatchesAt text i j → IsSolid text i j) := by
  obtain ⟨r, hr, hmatches⟩ := Regex.exists_ofText?_between_boundaries .add Operator.all.tail
  have hbounds : ∀ (text : List Char) (i j : Nat), i ≤ j → j ≤ text.length →
      (r.MatchesAt text i j ↔ StartsAt text i ∧ StopsAt text j ∧
        (Operator.ofToken? (.ofList (slice text i j))).isSome) := by
    intro text i j hij hj
    unfold Regex.MatchesAt
    rw [hmatches, startsAt_iff (by omega), stopsAt_iff hj, and_comm (b := StopsAt text j)]
    exact and_congr_right' (and_congr_right' Operator.exists_mem_all_iff)
  have hwords : ∀ (text : List Char) (i j : Nat), i ≤ j → j ≤ text.length →
      (r.MatchesAt text i j ↔ IsWordAt text i j ∧
        (Operator.ofToken? (.ofList (slice text i j))).isSome) := by
    intro text i j hij hj
    rw [hbounds text i j hij hj, ← and_assoc, and_congr_left_iff]
    intro htoken
    obtain ⟨hlt, hsolid⟩ := Operator.lt_and_isSolid_of_isSome htoken
    exact (isWordAt_iff hlt hj hsolid).symm
  refine ⟨r, hr, fun text i j hij hj => ⟨hbounds text i j hij hj, hwords text i j hij hj, ?_, ?_⟩⟩
  · intro hj' k hik hk hk'
    exact ((hwords text i k hik hk).mp hk').1.stop_unique ((hwords text i j hij hj).mp hj').1
  · intro hj'
    exact ((hwords text i j hij hj).mp hj').1.solid

/-- In the text of three words the pattern finds the operator that is the last one. -/
theorem wholeToken_matches_words_square_root :
    ∃ r, Regex.ofText? wholeToken = some r ∧
      r.MatchesAt "3 -4 sqrt".toList 5 9 ∧ ¬ r.MatchesAt "3 -4 sqrt".toList 2 3 := by
  obtain ⟨r, hr, hmatches⟩ := wholeToken_matches_words
  refine ⟨r, hr, ?_, ?_⟩
  · rw [(hmatches "3 -4 sqrt".toList 5 9 (by decide) (by decide)).1]
    exact ⟨.inr ⟨' ', by decide, by decide⟩, .inl (by decide), by decide⟩
  · rw [(hmatches "3 -4 sqrt".toList 2 3 (by decide) (by decide)).1]
    rintro ⟨-, hstop | ⟨c, hc, hspace⟩, -⟩
    · exact absurd hstop (by decide)
    · obtain rfl : '4' = c := Option.some.inj hc
      exact absurd hspace (by decide)

end Pattern

end ReversePolish
