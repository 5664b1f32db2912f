/-
**The numbers of a page.**

The number of a page comes from a word of 32 bits and its size is at most 500, so the rows in front
of it can be counted without leaving the range of a signed word of 64 bits.

Main results:

* `ofParams_eq` — **a page that is written into parameters is the page that they ask for**;
* `toNat_offset` — nothing wraps around where the rows in front of a page are counted;
* `toInt_offset`, `toInt_limit` — **the two numbers that a statement carries are the page's**.
-/

import Circulation.Page
import Circulation.Proofs.Calendar.Literal

set_option relaxedAutoImplicit false
set_option autoImplicit false

namespace Circulation

namespace Page

theorem one_le_toNat_number (p : Page) : 1 ≤ p.number.toNat := by
  have h := UInt32.le_iff_toNat_le.1 p.number_pos
  exact h

theorem one_le_toNat_size (p : Page) : 1 ≤ p.size.toNat := by
  have h := UInt32.le_iff_toNat_le.1 p.size_pos
  exact h

theorem toNat_size_le (p : Page) : p.size.toNat ≤ 500 := by
  have h := UInt32.le_iff_toNat_le.1 p.size_le
  exact h

/-! ### Asking for a page -/

theorem number_clamped {number : UInt32} (h : 1 ≤ number) (size : UInt32) :
    (clamped number size).number = number := if_pos h

theorem size_clamped (number : UInt32) (p : Page) : (clamped number p.size).size = p.size := by
  have hsize : clampSize p.size = if 1 ≤ p.size then p.size else 1 := if_pos p.size_le
  exact hsize.trans (if_pos p.size_pos)

/-- A positive number is read back from its digits. -/
theorem readPositive?_repr {n : UInt32} (h : 1 ≤ n) : readPositive? n.toNat.repr = some n := by
  have hdigit : ∀ c ∈ n.toNat.repr.toList, c.isDigit = true := by
    rw [Nat.toList_repr]
    exact fun c hc => Nat.isDigit_of_mem_toDigits (by decide) (by decide) hc
  have htrim : Text.trimChars n.toNat.repr.toList = n.toNat.repr.toList :=
    Text.trimChars_of_forall fun c hc => Text.isBlank_of_isDigit (hdigit c hc)
  have hpos : 0 < n := UInt32.lt_iff_toNat_lt.2 (UInt32.le_iff_toNat_le.1 h)
  rw [readPositive?, htrim, Text.readUInt32?, Text.readUnsigned?_repr, Option.bind_some,
    if_pos n.toNat_lt, UInt32.ofNat_toNat, Option.filter_some, decide_eq_true hpos, if_pos rfl]

/-- **A page that is written into parameters is the page that they ask for.** -/
theorem ofParams_eq {params : Dict String} {number : UInt32} (h : 1 ≤ number) (p : Page)
    (hnumber : params.get? numberKey = some number.toNat.repr)
    (hsize : params.get? sizeKey = some p.size.toNat.repr) :
    ofParams params = clamped number p.size := by
  rw [ofParams, hnumber, hsize, Option.bind_some, Option.bind_some, readPositive?_repr h,
    readPositive?_repr p.size_pos, Option.getD_some, Option.getD_some]

/-! ### Rows -/

/-- What is in front of a page is far below the range of a word. -/
theorem offset_lt (p : Page) : (p.number.toNat - 1) * p.size.toNat < 2 ^ 63 := by
  have hnumber : p.number.toNat - 1 ≤ 2 ^ 32 := by
    have h := p.number.toNat_lt
    omega
  have h := Nat.mul_le_mul hnumber p.toNat_size_le
  omega

/-- Nothing wraps around where the rows in front of a page are counted. -/
theorem toNat_offset (p : Page) : p.offset.toNat = (p.number.toNat - 1) * p.size.toNat := by
  have hpos : (1 : UInt64) ≤ p.number.toUInt64 := by
    rw [UInt64.le_iff_toNat_le, UInt32.toNat_toUInt64]
    exact p.one_le_toNat_number
  have hsub : (p.number.toUInt64 - 1).toNat = p.number.toNat - 1 := by
    rw [UInt64.toNat_sub_of_le _ _ hpos, UInt32.toNat_toUInt64]
    rfl
  have hlt := p.offset_lt
  rw [offset, UInt64.toNat_mul, hsub, UInt32.toNat_toUInt64]
  exact Nat.mod_eq_of_lt (by omega)

/-- **The rows in front of a page, as a signed number.** -/
theorem toInt_offset (p : Page) :
    p.offset.toInt64.toInt = (p.number.toNat - 1 : Int) * p.size.toNat := by
  have hlt := p.offset_lt
  have hword : p.offset.toInt64.toInt = p.offset.toBitVec.toInt := rfl
  have hnat : p.offset.toBitVec.toNat = (p.number.toNat - 1) * p.size.toNat := p.toNat_offset
  have hone := p.one_le_toNat_number
  rw [hword, BitVec.toInt_eq_toNat_of_lt (by omega), hnat, Int.natCast_mul, Int.natCast_sub hone]
  rfl

/-- **The rows on a page, as a signed number.** -/
theorem toInt_limit (p : Page) : (Int64.ofNat p.limit.toNat).toInt = p.size.toNat := by
  have hle := p.toNat_size_le
  exact Int64.toInt_ofNat_of_lt (by rw [limit]; omega)

end Page

/-! ### Neighbours of a page -/

namespace PageOf

variable {α : Type} {p : PageOf α}

/-- No page has a number from which one could not be taken away. -/
theorem toNat_previous (p : PageOf α) :
    (p.page.number - 1).toNat + 1 = p.page.number.toNat := by
  have hone := p.page.one_le_toNat_number
  have hsub : (p.page.number - 1).toNat = p.page.number.toNat - 1 :=
    UInt32.toNat_sub_of_le _ _ p.page.number_pos
  omega

theorem one_le_previous (h : p.hasPrevious = true) : 1 ≤ p.page.number - 1 := by
  have hlt : 1 < p.page.number.toNat := UInt32.lt_iff_toNat_lt.1 (of_decide_eq_true h)
  have hprevious := p.toNat_previous
  rw [UInt32.le_iff_toNat_le]
  change 1 ≤ (p.page.number - 1).toNat
  omega

/-- Behind a page there is another one only as long as its number is in range. -/
theorem toNat_next (h : p.hasNext = true) :
    (p.page.number + 1).toNat = p.page.number.toNat + 1 := by
  have hlt : p.page.number.toNat < p.totalPages.toNat :=
    UInt32.lt_iff_toNat_lt.1 (of_decide_eq_true h)
  have hmax := p.totalPages.toNat_lt
  rw [UInt32.toNat_add]
  exact Nat.mod_eq_of_lt (by change p.page.number.toNat + 1 < 2 ^ 32; omega)

theorem one_le_next (h : p.hasNext = true) : 1 ≤ p.page.number + 1 := by
  rw [UInt32.le_iff_toNat_le, toNat_next h]
  exact Nat.le_add_left 1 _

end PageOf

end Circulation
