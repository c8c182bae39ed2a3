import ReversePolish.Text.Range

/-!
# White space and words

* `Text.isSpace` — whether a character is white space: the property `White_Space` of Unicode 17.
* `Text.words` — the words of a text, which white space divides.
-/

namespace ReversePolish.Text

/-- The code points of white space. -/
def spaceRanges : List (Nat × Nat) :=
  [(0x9, 0xd), (0x20, 0x20), (0x85, 0x85), (0xa0, 0xa0), (0x1680, 0x1680), (0x2000, 0x200a),
   (0x2028, 0x2029), (0x202f, 0x202f), (0x205f, 0x205f), (0x3000, 0x3000)]

/-- Whether `c` is white space. -/
def isSpace (c : Char) : Bool := covers spaceRanges c

/-- The words of a text, from left to right. -/
def words (text : List Char) : List (List Char) :=
  (text.splitOnP isSpace).filter fun word => !word.isEmpty

end ReversePolish.Text
