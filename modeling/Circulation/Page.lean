/-
**Pages of a result.**

A page has a number from 1 on and a size from 1 to 500; both bounds are part of the type.

Main definitions:

* `Page`, `Page.clamped` — pages, and the page nearest to two numbers;
* `Page.ofParams` — the page that a request asks for;
* `Page.offset`, `Page.limit` — the rows in front of a page and on it;
* `PageOf` — the rows of a page and the number of all rows;
* `PageOf.totalPages`, `PageOf.hasNext`, `PageOf.hasPrevious` — the page among all pages.
-/

import Circulation.Dict
import Circulation.Text.Blank
import Circulation.Text.Numeral

set_option relaxedAutoImplicit false
set_option autoImplicit false

namespace Circulation

/-! ### Pages -/

/-- A page by its number and its size. -/
structure Page where
  number : UInt32
  size : UInt32
  number_pos : 1 ≤ number
  size_pos : 1 ≤ size
  size_le : size ≤ 500
deriving DecidableEq

namespace Page

/-- The greatest size of a page. -/
def maxSize : UInt32 := 500

/-- The size of a page that nobody asked for. -/
def usualSize : UInt32 := 25

/-- The number, but at least 1. -/
def clampNumber (number : UInt32) : UInt32 := if 1 ≤ number then number else 1

/-- The size, but at least 1 and at most 500. -/
def clampSize (size : UInt32) : UInt32 :=
  if size ≤ maxSize then if 1 ≤ size then size else 1 else maxSize

theorem one_le_clampNumber (number : UInt32) : 1 ≤ clampNumber number := by
  unfold clampNumber
  split
  · assumption
  · decide

theorem one_le_clampSize (size : UInt32) : 1 ≤ clampSize size := by
  unfold clampSize
  split
  · split
    · assumption
    · decide
  · decide

theorem clampSize_le (size : UInt32) : clampSize size ≤ 500 := by
  unfold clampSize
  split
  · next h =>
      split
      · exact h
      · decide
  · decide

/-- The page nearest to a number and a size. -/
def clamped (number size : UInt32) : Page where
  number := clampNumber number
  size := clampSize size
  number_pos := one_le_clampNumber number
  size_pos := one_le_clampSize size
  size_le := clampSize_le size

/-- The page that is taken when nothing is asked for. -/
def first : Page := clamped 1 usualSize

/-! ### Asking for a page -/

/-- The parameter that holds the number of a page. -/
def numberKey : String := "page[number]"

/-- The parameter that holds the size of a page. -/
def sizeKey : String := "page[size]"

/-- A positive number, blanks around it ignored. -/
def readPositive? (text : String) : Option UInt32 :=
  (Text.readUInt32? (Text.trimChars text.toList)).filter fun n => 0 < n

/-- The page that parameters ask for; what is missing or no positive number is as usual. -/
def ofParams (params : Dict String) : Page :=
  clamped (((params.get? numberKey).bind readPositive?).getD 1)
    (((params.get? sizeKey).bind readPositive?).getD usualSize)

/-! ### Rows -/

/-- The number of rows in front of the page. -/
def offset (p : Page) : UInt64 := (p.number.toUInt64 - 1) * p.size.toUInt64

/-- The number of rows on the page. -/
def limit (p : Page) : UInt32 := p.size

end Page

/-! ### The rows of a page -/

/-- The rows of a page, and how many rows there are on all pages. -/
structure PageOf (α : Type) where
  items : List α
  total : Int64
  page : Page

namespace PageOf

variable {α : Type}

/-- A quotient rounded up. -/
def ceilDiv (n d : UInt64) : UInt64 := if n % d = 0 then n / d else n / d + 1

/-- The number of pages.  Without rows there is still one; the count is kept in 32 bits. -/
def totalPages (p : PageOf α) : UInt32 :=
  if p.total ≤ 0 then 1
  else (max (ceilDiv p.total.toUInt64 (max p.page.size 1).toUInt64) 1).toUInt32

/-- Whether there is a page behind this one. -/
def hasNext (p : PageOf α) : Bool := decide (p.page.number < p.totalPages)

/-- Whether there is a page in front of this one. -/
def hasPrevious (p : PageOf α) : Bool := decide (1 < p.page.number)

end PageOf

end Circulation
