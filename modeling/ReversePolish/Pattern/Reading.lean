import ReversePolish.Pattern.Regex

/-!
# Reading patterns

* `Regex.ofText?` — the expression that a pattern stands for. A letter stands for itself and a mark
  does so after a backslash; `\s` is white space, `^` the start and `$` the end of the text, a bar
  divides alternatives, and brackets hold a group or, with `?<=` or `?=` after the opening one, a
  test of the text before or after the place.

The reader keeps the brackets that are open, each with what was read before it, so that it goes
through the pattern once from left to right.
-/

namespace ReversePolish

namespace Regex

/-- What an opening bracket begins. -/
inductive Opening where
  /-- A group. -/
  | group
  /-- A test of the text before the place. -/
  | behind
  /-- A test of the text after the place. -/
  | ahead
  deriving DecidableEq, Repr

/-- The expression of a pair of brackets around `r`. -/
def Opening.around : Opening → Regex → Regex
  | group, r => r
  | behind, r => .behind r
  | ahead, r => .ahead r

/-- What has been read since a bracket was opened. -/
structure Branch where
  /-- The alternatives before the last bar; none before the first. -/
  earlier : Option Regex
  /-- The alternative after it. -/
  current : Regex
  deriving DecidableEq, Repr

namespace Branch

/-- Nothing has been read. -/
def blank : Branch := ⟨none, .empty⟩

/-- The expression read. -/
def regex (b : Branch) : Regex :=
  match b.earlier with
  | none => b.current
  | some r => .either r b.current

/-- Reads an expression that stands next. -/
def next (b : Branch) (r : Regex) : Branch := { b with current := .seq b.current r }

/-- Reads a bar. -/
def bar (b : Branch) : Branch := ⟨some b.regex, .empty⟩

end Branch

/-- Reads the rest of a pattern. The brackets that are open are `outer`, the innermost first, each
with what was read before it, and `here` has been read since. There is no expression when the
brackets do not fit or a character has no meaning. -/
def read (outer : List (Opening × Branch)) (here : Branch) : List Char → Option Regex
  | [] => if outer.isEmpty then some here.regex else none
  | '\\' :: 's' :: rest => read outer (here.next .space) rest
  | '\\' :: c :: rest => if c.isAlphanum then none else read outer (here.next (.char c)) rest
  | '(' :: '?' :: '<' :: '=' :: rest => read ((.behind, here) :: outer) .blank rest
  | '(' :: '?' :: '=' :: rest => read ((.ahead, here) :: outer) .blank rest
  | '(' :: rest => read ((.group, here) :: outer) .blank rest
  | ')' :: rest =>
    match outer with
    | [] => none
    | (opening, before) :: outer => read outer (before.next (opening.around here.regex)) rest
  | '|' :: rest => read outer here.bar rest
  | '^' :: rest => read outer (here.next .start) rest
  | '$' :: rest => read outer (here.next .stop) rest
  | c :: rest => if c.isAlpha then read outer (here.next (.char c)) rest else none

/-- The expression that a pattern stands for. -/
def ofText? (pattern : List Char) : Option Regex := read [] .blank pattern

end Regex

end ReversePolish
