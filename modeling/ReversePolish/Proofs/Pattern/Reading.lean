import ReversePolish.Operator.Sequence
import ReversePolish.Pattern.Alternation
import ReversePolish.Pattern.Reading

/-!
# What the pattern for operator tokens stands for

* **Texts** (`read_escape`): an escaped text is read as itself, character by character.
* **Alternatives** (`read_alternation`): the alternation of operators is read as an expression that
  matches their tokens. This holds for any operators in any order, after any alternatives already
  read.
* **Boundaries** (`matches_boundaryBefore`, `matches_boundaryAfter`): the two tests match where
  white space or an end of the text is next to the place.
* **Whole tokens** (`exists_ofText?_between_boundaries`): the pattern is read as an expression that matches
  just the tokens between two boundaries.
-/

namespace ReversePolish

/-- In tokens, what is no letter is no digit either, so a backslash before it is no class. -/
theorem Operator.isAlphanum_of_mem_token {op : Operator} {c : Char} (h : c ∈ op.token.toList)
    (hc : c.isAlpha = false) : c.isAlphanum = false := by
  have hall : op.token.toList.all (fun c => c.isAlpha || !c.isAlphanum) = true := by
    cases op <;> decide
  simpa [hc] using List.all_eq_true.mp hall c h

namespace Regex

variable {outer : List (Opening × Branch)} {here : Branch} {c : Char} {rest text : List Char}

/-! ### Texts -/

/-- A letter is read as itself. -/
theorem read_letter (h : c.isAlpha = true) :
    read outer here (c :: rest) = read outer (here.next (.char c)) rest := by
  have hne : c ≠ '\\' ∧ c ≠ '(' ∧ c ≠ ')' ∧ c ≠ '|' ∧ c ≠ '^' ∧ c ≠ '$' := by
    refine ⟨?_, ?_, ?_, ?_, ?_, ?_⟩ <;>
    · rintro rfl
      revert h
      decide
  rw [read, if_pos h] <;> simp [hne]

/-- A mark after a backslash is read as itself. -/
theorem read_escaped (h : c.isAlphanum = false) :
    read outer here ('\\' :: c :: rest) = read outer (here.next (.char c)) rest := by
  rw [read, if_neg (by rw [h]; decide)]
  rintro rfl
  revert h
  decide

/-- A bracket that no question mark follows opens a group. -/
theorem read_group (h : ∀ t, rest ≠ '?' :: t) :
    read outer here ('(' :: rest) = read ((.group, here) :: outer) .blank rest := by
  rw [read]
  · rintro t rfl
    exact h _ rfl
  · rintro t rfl
    exact h _ rfl

/-- Reads the characters of a text one after another. -/
def Branch.literal (b : Branch) (text : List Char) : Branch :=
  text.foldl (fun b c => b.next (.char c)) b

@[simp] theorem Branch.literal_nil (b : Branch) : b.literal [] = b := rfl

theorem Branch.literal_cons (b : Branch) (c : Char) (text : List Char) :
    b.literal (c :: text) = (b.next (.char c)).literal text := rfl

/-- **Texts.** An escaped text is read as itself. -/
theorem read_escape (h : ∀ c ∈ text, c.isAlpha = false → c.isAlphanum = false) :
    read outer here (Pattern.escape text ++ rest) = read outer (here.literal text) rest := by
  induction text generalizing here with
  | nil => rfl
  | cons c text ih =>
      have htail : read outer (here.next (.char c)) (Pattern.escape text ++ rest) =
          read outer ((here.next (.char c)).literal text) rest :=
        ih fun d hd => h d (List.mem_cons_of_mem _ hd)
      unfold Pattern.escape at htail ⊢
      rw [List.flatMap_cons, List.append_assoc, Branch.literal_cons]
      by_cases hc : c.isAlpha = true
      · rw [if_pos hc, List.singleton_append, read_letter hc, htail]
      · have hmark : c.isAlphanum = false := h c List.mem_cons_self (Bool.eq_false_iff.mpr hc)
        rw [if_neg hc, List.cons_append, List.singleton_append, read_escaped hmark, htail]

/-- The first character of an escaped text is the text's own or a backslash. -/
theorem escape_append_ne (h : text ≠ []) (t : List Char) :
    Pattern.escape text ++ rest ≠ '?' :: t := by
  obtain ⟨c, text, rfl⟩ := List.exists_cons_of_ne_nil h
  unfold Pattern.escape
  rw [List.flatMap_cons]
  by_cases hc : c.isAlpha = true
  · rw [if_pos hc]
    rintro ⟨⟩
    revert hc
    decide
  · rw [if_neg hc]
    rintro ⟨⟩

/-! ### Alternatives -/

variable {before piece after : List Char}

theorem Branch.earlier_literal (b : Branch) (text : List Char) :
    (b.literal text).earlier = b.earlier := by
  induction text generalizing b with
  | nil => rfl
  | cons c text ih => exact ih _

/-- After a text has been read, it ends every match. -/
theorem Branch.matches_current_literal {b : Branch} :
    (b.literal text).current.Matches before piece after ↔
      ∃ u, piece = u ++ text ∧ b.current.Matches before u (text ++ after) := by
  induction text generalizing b with
  | nil => simp
  | cons c text ih =>
      rw [literal_cons, ih]
      simp only [next, Matches]
      constructor
      · rintro ⟨_, rfl, u, _, rfl, hu, rfl⟩
        exact ⟨u, by simp, hu⟩
      · rintro ⟨u, rfl, hu⟩
        exact ⟨u ++ [c], by simp, u, [c], rfl, hu, rfl⟩

/-- A branch matches what an alternative before the last bar does, or the one after it. -/
theorem Branch.matches_regex {b : Branch} :
    b.regex.Matches before piece after ↔
      (∃ r, b.earlier = some r ∧ r.Matches before piece after) ∨
        b.current.Matches before piece after := by
  unfold regex
  cases b.earlier with
  | none => simp
  | some r => simp [Matches]

/-- A text read as a new alternative is matched by itself. -/
theorem Branch.matches_literal {b : Branch} (h : b.current = .empty) :
    (b.literal text).regex.Matches before piece after ↔
      (∃ r, b.earlier = some r ∧ r.Matches before piece after) ∨ piece = text := by
  rw [matches_regex, earlier_literal, matches_current_literal, h]
  simp [Matches]

/-- **Alternatives.** An alternation is read as an expression that matches the tokens, besides what
the alternatives before it match. -/
theorem read_alternation (op : Operator) (ops : List Operator) (h : here.current = .empty) :
    ∃ b, (∀ outer rest,
        read outer here (Pattern.alternation (op :: ops) ++ rest) = read outer b rest) ∧
      ∀ before piece after, b.regex.Matches before piece after ↔
        (∃ r, here.earlier = some r ∧ r.Matches before piece after) ∨
          ∃ op' ∈ op :: ops, piece = op'.token.toList := by
  induction ops generalizing op here with
  | nil =>
      refine ⟨here.literal op.token.toList, ?_, ?_⟩
      · intro outer rest
        rw [Pattern.alternation_singleton]
        exact read_escape fun c hc => Operator.isAlphanum_of_mem_token hc
      · intro before piece after
        rw [Branch.matches_literal h]
        simp
  | cons op' ops ih =>
      -- what the first token adds is among the earlier alternatives when the rest is read
      have hbar : (here.literal op.token.toList).bar.current = .empty := rfl
      obtain ⟨b, hread, hmatches⟩ := ih op' hbar
      refine ⟨b, ?_, ?_⟩
      · intro outer rest
        rw [Pattern.alternation_cons_cons, List.append_assoc, List.cons_append,
          Operator.escapedToken, read_escape fun c hc => Operator.isAlphanum_of_mem_token hc]
        exact hread outer rest
      · intro before piece after
        rw [hmatches]
        simp only [Branch.bar, Option.some.injEq, exists_eq_left', Branch.matches_literal h,
          List.mem_cons, exists_eq_or_imp, or_assoc]

/-! ### Boundaries -/

/-- The test before a token: the start of the text or white space. -/
def boundaryBefore : Regex := .behind (.either (.seq .empty .start) (.seq .empty .space))

/-- The test after a token: white space or the end of the text. -/
def boundaryAfter : Regex := .ahead (.either (.seq .empty .space) (.seq .empty .stop))

/-- Nothing comes before an expression that is read first. -/
theorem matches_empty_seq {r : Regex} :
    (seq empty r).Matches before piece after ↔ r.Matches before piece after := by
  constructor
  · rintro ⟨u, v, rfl, rfl, hr⟩
    rwa [List.append_nil] at hr
  · intro hr
    exact ⟨[], piece, rfl, rfl, by rwa [List.append_nil]⟩

/-- The test before a token matches where nothing or white space comes before. -/
theorem matches_boundaryBefore :
    boundaryBefore.Matches before piece after ↔
      piece = [] ∧ (before = [] ∨ ∃ u c, before = u ++ [c] ∧ Text.isSpace c = true) := by
  unfold boundaryBefore
  constructor
  · rintro ⟨hpiece, u, v, rfl, hstart | hspace⟩
    · obtain ⟨rfl, rfl⟩ := matches_empty_seq.mp hstart
      exact ⟨hpiece, .inl rfl⟩
    · obtain ⟨c, hc, rfl⟩ := matches_empty_seq.mp hspace
      exact ⟨hpiece, .inr ⟨u, c, rfl, hc⟩⟩
  · rintro ⟨hpiece, rfl | ⟨u, c, rfl, hc⟩⟩
    · exact ⟨hpiece, [], [], rfl, .inl (matches_empty_seq.mpr ⟨rfl, rfl⟩)⟩
    · exact ⟨hpiece, u, [c], rfl, .inr (matches_empty_seq.mpr ⟨c, hc, rfl⟩)⟩

/-- The test after a token matches where nothing or white space comes after. -/
theorem matches_boundaryAfter :
    boundaryAfter.Matches before piece after ↔
      piece = [] ∧ (after = [] ∨ ∃ c v, after = c :: v ∧ Text.isSpace c = true) := by
  unfold boundaryAfter
  constructor
  · rintro ⟨hpiece, u, v, rfl, hspace | hstop⟩
    · obtain ⟨c, hc, rfl⟩ := matches_empty_seq.mp hspace
      exact ⟨hpiece, .inr ⟨c, v, rfl, hc⟩⟩
    · obtain ⟨rfl, rfl⟩ := matches_empty_seq.mp hstop
      exact ⟨hpiece, .inl rfl⟩
  · rintro ⟨hpiece, rfl | ⟨c, v, rfl, hc⟩⟩
    · exact ⟨hpiece, [], [], rfl, .inr (matches_empty_seq.mpr ⟨rfl, rfl⟩)⟩
    · exact ⟨hpiece, [c], v, rfl, .inl (matches_empty_seq.mpr ⟨c, hc, rfl⟩)⟩

/-! ### Whole tokens -/

/-- An expression between the two boundaries matches what it matches where both are. -/
theorem matches_between_boundaries {r : Regex} :
    (seq (seq (seq empty boundaryBefore) r) boundaryAfter).Matches before piece after ↔
      (before = [] ∨ ∃ u c, before = u ++ [c] ∧ Text.isSpace c = true) ∧
        r.Matches before piece after ∧
        (after = [] ∨ ∃ c v, after = c :: v ∧ Text.isSpace c = true) := by
  constructor
  · rintro ⟨_, w, rfl, ⟨u, v, rfl, hbefore, hr⟩, hafter⟩
    obtain ⟨rfl, hstarts⟩ := matches_boundaryBefore.mp (matches_empty_seq.mp hbefore)
    obtain ⟨rfl, hstops⟩ := matches_boundaryAfter.mp hafter
    rw [List.append_nil, List.nil_append] at hr
    rw [List.nil_append, List.append_nil]
    exact ⟨hstarts, hr, hstops⟩
  · rintro ⟨hbefore, hr, hafter⟩
    refine ⟨piece, [], (List.append_nil _).symm, ⟨[], piece, rfl, ?_, ?_⟩, ?_⟩
    · exact matches_empty_seq.mpr (matches_boundaryBefore.mpr ⟨rfl, hbefore⟩)
    · rwa [List.append_nil, List.nil_append]
    · exact matches_boundaryAfter.mpr ⟨rfl, hafter⟩

/-- The pattern for a token of some operators as a whole word is read as an expression that matches
their tokens between two boundaries. -/
theorem exists_ofText?_between_boundaries (op : Operator) (ops : List Operator) :
    ∃ r, ofText? ("(?<=^|\\s)(".toList ++ Pattern.alternation (op :: ops) ++ ")(?=\\s|$)".toList) =
        some r ∧
      ∀ before piece after, r.Matches before piece after ↔
        (before = [] ∨ ∃ u c, before = u ++ [c] ∧ Text.isSpace c = true) ∧
          (∃ op' ∈ op :: ops, piece = op'.token.toList) ∧
          (after = [] ∨ ∃ c v, after = c :: v ∧ Text.isSpace c = true) := by
  have hgroup : ∀ t, Pattern.alternation (op :: ops) ++ ")(?=\\s|$)".toList ≠ '?' :: t := by
    cases ops with
    | nil =>
        rw [Pattern.alternation_singleton]
        exact escape_append_ne op.token_ne_nil
    | cons op' ops =>
        rw [Pattern.alternation_cons_cons, List.append_assoc]
        exact escape_append_ne op.token_ne_nil
  have hblank : Branch.blank.current = .empty := rfl
  obtain ⟨b, hread, hmatches⟩ := read_alternation op ops hblank
  refine ⟨.seq (.seq (.seq .empty boundaryBefore) b.regex) boundaryAfter, ?_, ?_⟩
  · rw [List.append_assoc]
    show read [] ⟨none, .seq .empty boundaryBefore⟩
      ('(' :: (Pattern.alternation (op :: ops) ++ ")(?=\\s|$)".toList)) = _
    rw [read_group hgroup, hread]
    rfl
  · intro before piece after
    rw [matches_between_boundaries, hmatches]
    simp [Branch.blank]

end Regex

end ReversePolish
