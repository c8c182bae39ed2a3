import ReversePolish.Text.Combining
import ReversePolish.Text.Unprintable

/-!
# Quoted text

A text is quoted by writing it between double quotes on one line, so that every character of it can
be told. A backslash begins an escape: a letter or mark of its own for six characters, and the code
point in base sixteen for the others that would not show.

* `escaped`, `encode` — the quoted form. Of the characters beyond ASCII a parameter says which are
  written by code point; `isHidden` is the choice for reports.
* `scan` — reads a quoted text from the left, undoing the escapes, up to the quote that closes it,
  and gives back what follows.
* `endsInEscape` — whether a backslash at the end of a text escapes what follows it.
-/

namespace ReversePolish.Text.Quoted

/-! ### Writing -/

/-- The mark that stands after a backslash for a character with an escape of its own. -/
def mark? : Char → Option Char
  | '\x00' => some '0'
  | '\t' => some 't'
  | '\r' => some 'r'
  | '\n' => some 'n'
  | '"' => some '"'
  | '\\' => some '\\'
  | _ => none

/-- Whether `c` is written by its code point: an ASCII control, or a hidden one beyond ASCII. -/
def isCoded (hidden : Char → Bool) (c : Char) : Bool :=
  c.toNat < 0x20 || c.toNat == 0x7f || (0x80 ≤ c.toNat && hidden c)

/-- What a character is written as between the quotes. -/
def escaped (hidden : Char → Bool) (c : Char) : List Char :=
  match mark? c with
  | some mark => ['\\', mark]
  | none =>
    if isCoded hidden c then '\\' :: 'u' :: '{' :: (Nat.toDigits 16 c.toNat ++ ['}'])
    else [c]

/-- The quoted form of a text. -/
def encode (hidden : Char → Bool) (text : List Char) : List Char :=
  '"' :: (text.flatMap (escaped hidden) ++ ['"'])

/-- The characters that would not show in a report: combining or unprintable ones. -/
def isHidden (c : Char) : Bool := isCombining c || isUnprintable c

/-! ### Reading -/

/-- The character that a mark after a backslash stands for. -/
def marked? : Char → Option Char
  | '0' => some '\x00'
  | 't' => some '\t'
  | 'r' => some '\r'
  | 'n' => some '\n'
  | '"' => some '"'
  | '\\' => some '\\'
  | _ => none

/-- The value of a lower-case digit in base sixteen. -/
def hexDigit? (c : Char) : Option Nat :=
  if '0' ≤ c ∧ c ≤ '9' then some (c.toNat - '0'.toNat)
  else if 'a' ≤ c ∧ c ≤ 'f' then some (c.toNat - 'a'.toNat + 10)
  else none

/-- Where in a quoted text a reader stands. -/
inductive Place where
  /-- Between characters. -/
  | text
  /-- After a backslash. -/
  | escape
  /-- After the letter that announces a code point. -/
  | code
  /-- Within a code point, of which the digits read so far have the given value. -/
  | digits (value : Nat)
  deriving DecidableEq, Repr

/-- Reads on from a place in a quoted text to the quote that closes it: the characters read and the
rest; none when no quote closes it or an escape is malformed. -/
def scan : Place → List Char → Option (List Char × List Char)
  | _, [] => none
  | .text, '"' :: rest => some ([], rest)
  | .text, '\\' :: rest => scan .escape rest
  | .text, c :: rest => (scan .text rest).map fun (read, rest) => (c :: read, rest)
  | .escape, 'u' :: rest => scan .code rest
  | .escape, m :: rest => do
    let c ← marked? m
    let (read, rest) ← scan .text rest
    pure (c :: read, rest)
  | .code, '{' :: rest => scan (.digits 0) rest
  | .code, _ :: _ => none
  | .digits value, '}' :: rest =>
    (scan .text rest).map fun (read, rest) => (Char.ofNat value :: read, rest)
  | .digits value, d :: rest => do
    let digit ← hexDigit? d
    scan (.digits (16 * value + digit)) rest

/-- Reads a quoted text at the start of `input`: the text and what follows it. -/
def decode? : (input : List Char) → Option (List Char × List Char)
  | '"' :: rest => scan .text rest
  | _ => none

/-! ### Escaping backslashes -/

/-- Whether the last character of a text escapes the one that follows it: it is a backslash that is
not itself escaped. -/
def endsInEscape (text : List Char) : Bool :=
  text.foldl (fun escaped c => c == '\\' && !escaped) false

end ReversePolish.Text.Quoted
