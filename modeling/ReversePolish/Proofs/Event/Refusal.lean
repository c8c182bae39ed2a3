import ReversePolish.Evaluation
import ReversePolish.Proofs.Event.Parts
import ReversePolish.Proofs.Text.Quoted

/-!
# The event of a call that is refused for its token

**Refused tokens** (`Call.unknown_token_quoted`): the text of the event is the quoted token and the
message, which gives the token as it stands. The quoted token shows every ASCII control by an escape
and tells where it ends, so the event gives back any token, whichever characters beyond ASCII are
written by code point.
-/

namespace ReversePolish

open Text.Quoted

namespace Call

/-- **Refused tokens.** Where a call is refused for its token, on any stack, the event gives the token
in quotes and then as it stands. Between the quotes there is no ASCII control and no quote that is not
escaped; a reader who undoes the escapes from the left stops at the closing quote, whatever stands
behind it, and has read the token. -/
theorem unknown_token_quoted {t : String} (ht : ∀ op : Operator, op.token ≠ t)
    (hidden : Char → Bool) (s : Stack) :
    ((token t).run s).event.textHiding hidden =
        "rejected token " ++ .ofList (encode hidden t.toList) ++ ": Unknown operator: " ++ t ∧
      (∃ inside, encode hidden t.toList = '"' :: (inside ++ ['"']) ∧
        (∀ c ∈ inside, 0x20 ≤ c.toNat ∧ c.toNat ≠ 0x7f) ∧
        ∀ before after, inside = before ++ '"' :: after → endsInEscape before = true) ∧
      ∀ rest, decode? (encode hidden t.toList ++ rest) = some (t.toList, rest) := by
  refine ⟨?_, ⟨_, rfl, ?_, ?_⟩, decode?_encode_append hidden t.toList⟩
  · rw [run_of_unknown ht s]
    exact Event.textHiding_unknownOperator hidden t
  · intro c hc
    exact shows_of_mem_flatMap_escaped hc
  · intro before after hinside
    exact endsInEscape_of_flatMap_escaped_eq hinside

/-- A backslash before a letter, a quote and the end of a line, as a token. -/
theorem unknown_token_quoted_backslash_quote :
    (∀ op : Operator, op.token ≠ "\\n\"\n") ∧
      ((token "\\n\"\n").run [2, 3]).event.text =
        "rejected token \"\\\\n\\\"\\n\": Unknown operator: \\n\"\n" ∧
      decode? "\"\\\\n\\\"\\n\": Unknown operator: \\n\"\n".toList =
        some ("\\n\"\n".toList, ": Unknown operator: \\n\"\n".toList) := by
  have ht : ∀ op : Operator, op.token ≠ "\\n\"\n" := by
    intro op
    cases op <;> decide
  obtain ⟨htext, -, hread⟩ := unknown_token_quoted ht isHidden [2, 3]
  have hquoted : encode isHidden "\\n\"\n".toList = "\"\\\\n\\\"\\n\"".toList := by decide
  rw [hquoted] at htext hread
  exact ⟨ht, htext, hread _⟩

end Call

end ReversePolish
