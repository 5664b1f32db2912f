/-
**How many pages there are, and whether one follows.**

The number of pages is the least one whose pages hold all rows, and at least one.  A page has another
one behind it when rows are left behind it.  Both are answered in a word of 32 bits: the number is
cut down to it, so it is right as long as it is in range, and where it is not, pages are missing and
the last ones deny that there are more.

Main definitions:

* `PageOf.HasRowsBehind` — rows are left behind a page;
* `PageOf.Counted` — the number of pages is the one of its total, and all that rests on it.

Main results:

* `pageCount_lt_iff`, `lt_pageCount_iff` — a number of pages against a total;
* `PageOf.toNat_totalPages_eq_mod` — **the number of pages is counted up to the range of its word**;
* `PageOf.hasRowsBehind_of_hasNext` — no page promises rows that are not there;
* `PageOf.totalPages_counted` — **totals up to the size times the greatest word are counted, and no
  others**.
-/

import Circulation.Proofs.Document.Tiling

set_option relaxedAutoImplicit false
set_option autoImplicit false

namespace Circulation

/-! ### A number of pages against a total -/

section PageCount

variable {total total' size n : Nat}

/-- Pages hold a total if their number times their size does. -/
theorem pageCount_le_iff (hsize : 0 < size) (hn : 1 ≤ n) :
    pageCount total size ≤ n ↔ total ≤ size * n := by
  rw [pageCount, Nat.max_le, ceilDiv_le_iff_le_mul hsize]
  exact and_iff_right hn

/-- The number of pages is below a bound if the pages below the bound hold the total. -/
theorem pageCount_lt_iff (hsize : 0 < size) (hn : 1 ≤ n) :
    pageCount total size < n + 1 ↔ total ≤ size * n := by
  rw [Nat.lt_succ_iff, pageCount_le_iff hsize hn]

/-- Another page follows if rows are left over. -/
theorem lt_pageCount_iff (hsize : 0 < size) (hn : 1 ≤ n) :
    n < pageCount total size ↔ n * size < total := by
  rw [← Nat.not_le, pageCount_le_iff hsize hn, Nat.not_le, Nat.mul_comm]

/-- More rows take no fewer pages. -/
theorem pageCount_mono (hsize : 0 < size) (h : total ≤ total') :
    pageCount total size ≤ pageCount total' size := by
  have hone : 1 ≤ pageCount total' size := Nat.le_max_left 1 _
  rw [pageCount_le_iff hsize hone]
  exact h.trans ((pageCount_le_iff hsize hone).1 le_rfl)

end PageCount

namespace PageOf

variable {α : Type} (p : PageOf α)

/-! ### Words -/

/-- **The number of pages is counted up to the range of its word**; a negative total counts as
none. -/
theorem toNat_totalPages_eq_mod :
    p.totalPages.toNat = pageCount p.total.toInt.toNat p.page.size.toNat % 2 ^ 32 := by
  by_cases h : 0 ≤ p.total
  · exact toNat_totalPages_mod h
  · have hneg : ¬ (0 : Int64).toInt ≤ p.total.toInt := fun hle => h (Int64.le_iff_toInt_le.2 hle)
    have hnonpos : p.total.toInt ≤ (0 : Int64).toInt := by omega
    have hzero : p.total.toInt.toNat = 0 := by
      change p.total.toInt ≤ 0 at hnonpos
      omega
    rw [totalPages, if_pos (Int64.le_iff_toInt_le.2 hnonpos), hzero, pageCount, zero_ceilDiv]
    rfl

/-! ### Rows behind a page -/

/-- Some row of the total lies behind the page. -/
def HasRowsBehind : Prop :=
  ∃ row : Nat, (row : Int) < p.total.toInt ∧ p.page.offset.toNat + p.page.limit.toNat ≤ row

/-- Rows are left behind a page if its number is not the one of the last page. -/
theorem hasRowsBehind_iff : p.HasRowsBehind ↔
    p.page.number.toNat < pageCount p.total.toInt.toNat p.page.size.toNat := by
  have hone := p.page.one_le_toNat_number
  rw [lt_pageCount_iff p.page.one_le_toNat_size hone, HasRowsBehind, p.page.offset_add_limit]
  constructor
  · rintro ⟨row, htotal, hrow⟩
    omega
  · intro h
    exact ⟨_, by omega, le_rfl⟩

theorem hasNext_iff : p.hasNext = true ↔ p.page.number.toNat <
    pageCount p.total.toInt.toNat p.page.size.toNat % 2 ^ 32 := by
  rw [hasNext, decide_eq_true_iff, UInt32.lt_iff_toNat_lt, toNat_totalPages_eq_mod]

/-- **No page promises rows that are not there**, however large the total is. -/
theorem hasRowsBehind_of_hasNext (h : p.hasNext = true) : p.HasRowsBehind :=
  p.hasRowsBehind_iff.2 ((p.hasNext_iff.1 h).trans_le (Nat.mod_le _ _))

/-! ### What is counted -/

/-- The number of pages is the one of the total, and so it has the properties of that number: it is
at least one, it does not fall while the total grows, and it tells whether rows are left. -/
structure Counted : Prop where
  pages : p.totalPages.toNat = pageCount p.total.toInt.toNat p.page.size.toNat
  pos : 1 ≤ p.totalPages
  mono : ∀ q : PageOf α, q.page.size = p.page.size → q.total ≤ p.total →
    q.totalPages ≤ p.totalPages
  next : p.hasNext = true ↔ p.HasRowsBehind

variable {p}

/-- A number of pages in range is counted. -/
theorem counted_of_lt (h : pageCount p.total.toInt.toNat p.page.size.toNat < 2 ^ 32) :
    p.Counted := by
  have hpages : p.totalPages.toNat = pageCount p.total.toInt.toNat p.page.size.toNat := by
    rw [toNat_totalPages_eq_mod, Nat.mod_eq_of_lt h]
  refine ⟨hpages, ?_, ?_, ?_⟩
  · rw [UInt32.le_iff_toNat_le, hpages]
    exact Nat.le_max_left 1 _
  · intro q hsize htotal
    have hle : q.total.toInt ≤ p.total.toInt := Int64.le_iff_toInt_le.1 htotal
    rw [UInt32.le_iff_toNat_le, hpages, toNat_totalPages_eq_mod, hsize]
    exact (Nat.mod_le _ _).trans
      (pageCount_mono p.page.one_le_toNat_size (Int.toNat_le_toNat hle))
  · rw [hasNext_iff, hasRowsBehind_iff, Nat.mod_eq_of_lt h]

/-- **Totals up to the size times the greatest word are counted, and no others**: behind this bound
the number of pages is cut down to its word.  A page that promises another one is right for every
total. -/
theorem totalPages_counted {α : Type} (p : PageOf α) :
    (p.Counted ↔ p.total.toInt ≤ p.page.size.toNat * (2 ^ 32 - 1)) ∧
    p.totalPages.toNat = pageCount p.total.toInt.toNat p.page.size.toNat % 2 ^ 32 ∧
    (p.hasNext = true → p.HasRowsBehind) := by
  refine ⟨?_, p.toNat_totalPages_eq_mod, p.hasRowsBehind_of_hasNext⟩
  have hbound : pageCount p.total.toInt.toNat p.page.size.toNat < 2 ^ 32 ↔
      p.total.toInt ≤ p.page.size.toNat * (2 ^ 32 - 1) := by
    have hlt : pageCount p.total.toInt.toNat p.page.size.toNat < (2 ^ 32 - 1) + 1 ↔
        p.total.toInt.toNat ≤ p.page.size.toNat * (2 ^ 32 - 1) :=
      pageCount_lt_iff p.page.one_le_toNat_size (by decide)
    omega
  constructor
  · intro h
    have hlt := p.totalPages.toNat_lt
    rw [h.pages] at hlt
    exact hbound.1 hlt
  · intro h
    exact counted_of_lt (hbound.2 h)

/-- The greatest total whose pages of five hundred rows are counted. -/
theorem totalPages_counted_greatest :
    let p : PageOf Record := ⟨[], 2147483647500, .clamped 4294967294 500⟩
    p.total.toInt = p.page.size.toNat * (2 ^ 32 - 1) ∧ p.Counted ∧ p.totalPages = 4294967295 ∧
      p.hasNext = true ∧ p.HasRowsBehind := by
  intro p
  have htotal : p.total.toInt = p.page.size.toNat * (2 ^ 32 - 1) := by decide
  have hnext : p.hasNext = true := by decide
  obtain ⟨hcounted, -, hbehind⟩ := totalPages_counted p
  exact ⟨htotal, hcounted.2 htotal.le, by decide, hnext, hbehind hnext⟩

/-- One row more than there are numbers of pages of one row: no page is counted, and the first page
denies the rows behind it. -/
theorem totalPages_wrapped :
    let p : PageOf Record := ⟨[], 4294967296, .clamped 1 1⟩
    pageCount p.total.toInt.toNat p.page.size.toNat = 4294967296 ∧ p.totalPages = 0 ∧
      p.hasNext = false ∧ p.HasRowsBehind := by
  intro p
  have hcount : pageCount p.total.toInt.toNat p.page.size.toNat = 4294967296 := by
    decide +kernel
  exact ⟨hcount, by decide, by decide, 1, by decide, by decide⟩

end PageOf

end Circulation
