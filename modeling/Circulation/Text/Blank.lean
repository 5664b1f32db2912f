/-
**Blank characters: trimming a text and splitting it into words.**

Blank is every character with the Unicode property `White_Space`, so the no-break space, the line
separators and the wide space of East Asian text count as well.

Main definitions:

* `isBlank` — the class of blank characters;
* `trimChars` — a text without the blanks at its two ends;
* `words` — the maximal pieces without a blank.
-/

set_option relaxedAutoImplicit false
set_option autoImplicit false

namespace Circulation.Text

/-! ### The class -/

/-- Blank characters: the twenty-five code points with the property `White_Space`. -/
def isBlank (c : Char) : Bool :=
  let n := c.toNat
  (decide (9 ≤ n) && decide (n ≤ 13)) || n == 0x20 || n == 0x85 || n == 0xA0 || n == 0x1680 ||
    (decide (0x2000 ≤ n) && decide (n ≤ 0x200A)) || n == 0x2028 || n == 0x2029 || n == 0x202F ||
    n == 0x205F || n == 0x3000

/-! ### Trimming -/

/-- The characters without the blanks at both ends. -/
def trimChars (cs : List Char) : List Char :=
  ((cs.dropWhile isBlank).reverse.dropWhile isBlank).reverse

/-! ### Words -/

/-- The maximal blank-free pieces, in order. -/
def words (cs : List Char) : List (List Char) :=
  (cs.splitOnP isBlank).filter fun w => !w.isEmpty

end Circulation.Text
