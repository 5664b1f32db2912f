/-
**The pages of a size tile the rows, and links lead through all of them.**

A row lies on the page whose number is one more than the row's place divided by the size.  So no row
lies on two pages, and as many pages as the total divided by the size, rounded up, hold all rows.
The same number stands at the end of a document and decides whether there is a next page; so who
begins at the first page and follows the links to the next one has seen every page when there is no
such link any more.

Main definitions:

* `Page.rows`, `Page.numbered` — the places of the rows on a page, and the page of a size with a
  number;
* `pageCount` — how many pages a total takes;
* `Tiled` — the pages of a size follow each other and hold every row once;
* `Service.followed`, `Walk` — following one link, and following a link as long as there is one;
* `Service.Walked` — where links lead from a page on.

Main results:

* `Page.mem_rows_iff` — which page a row lies on;
* `PageOf.toNat_totalPages` — **the number of pages is counted without loss**;
* `tiled` — **pages tile the rows**;
* `Service.walk_next` — from any page on the links to the next one lead through all that follow;
* `Service.walked` — **from the first page on they lead through all pages**;
* `Service.pages_walked` — both together, with all numbers counted exactly.
-/

import Circulation.Proofs.Document.Links
import Mathlib.Algebra.Order.Floor.Div
import Mathlib.Order.Interval.Finset.Nat

set_option relaxedAutoImplicit false
set_option autoImplicit false

namespace Circulation

/-! ### Which page a row lies on -/

namespace Page

/-- The places of the rows on a page. -/
def rows (p : Page) : Finset Nat := Finset.Ico p.offset.toNat (p.offset.toNat + p.limit.toNat)

/-- **A row lies on the page whose number is one more than its place divided by the size.** -/
theorem mem_rows_iff {p : Page} {row : Nat} :
    row ∈ p.rows ↔ p.number.toNat = row / p.size.toNat + 1 := by
  have hone := p.one_le_toNat_number
  have hsize := p.one_le_toNat_size
  have hdiv : row / p.size.toNat = p.number.toNat - 1 ↔
      (p.number.toNat - 1) * p.size.toNat ≤ row ∧
        row ≤ (p.number.toNat - 1) * p.size.toNat + p.size.toNat - 1 := Nat.div_eq_iff hsize
  rw [rows, Finset.mem_Ico, toNat_offset, limit]
  constructor
  · intro h
    have := hdiv.2 ⟨h.1, by omega⟩
    omega
  · intro h
    have := hdiv.1 (by omega)
    omega

/-- The page of a size with a number. -/
def numbered (size : UInt32) (number : Nat) : Page := clamped (UInt32.ofNat number) size

/-- A number that is in range is the number of its page. -/
theorem toNat_number_numbered {number : Nat} (hone : 1 ≤ number) (hmax : number < 2 ^ 32)
    (size : UInt32) : (numbered size number).number.toNat = number := by
  have hword : (UInt32.ofNat number).toNat = number := by
    rw [UInt32.toNat_ofNat']
    exact Nat.mod_eq_of_lt hmax
  have hpos : 1 ≤ UInt32.ofNat number := by
    rw [UInt32.le_iff_toNat_le, hword]
    exact hone
  rw [numbered, number_clamped hpos, hword]

theorem size_numbered {size : UInt32} (hpos : 1 ≤ size) (hle : size ≤ 500) (number : Nat) :
    (numbered size number).size = size :=
  size_clamped (UInt32.ofNat number) ⟨1, size, by decide, hpos, hle⟩

/-- Where a page ends is a multiple of its size. -/
theorem offset_add_limit (p : Page) :
    p.offset.toNat + p.limit.toNat = p.number.toNat * p.size.toNat := by
  have hone := p.one_le_toNat_number
  rw [toNat_offset, limit, ← Nat.succ_mul, Nat.succ_eq_add_one, Nat.sub_add_cancel hone]

end Page

/-! ### How many pages there are -/

/-- How many pages of a size a total takes; there is always one. -/
def pageCount (total size : Nat) : Nat := max 1 (total ⌈/⌉ size)

/-- The place of a row is in front of the end of the last page. -/
theorem div_lt_pageCount {row total size : Nat} (hsize : 0 < size) (h : row < total) :
    row / size < pageCount total size := by
  have hceil : total ≤ size * (total ⌈/⌉ size) := (ceilDiv_le_iff_le_mul hsize).1 le_rfl
  have hdiv : row / size < total ⌈/⌉ size := by
    rw [Nat.div_lt_iff_lt_mul hsize, Nat.mul_comm]
    omega
  exact lt_max_of_lt_right hdiv

/-- A quotient of words is rounded up without loss. -/
theorem PageOf.toNat_ceilDiv {n d : UInt64} (h : 0 < d.toNat) :
    (ceilDiv n d).toNat = n.toNat ⌈/⌉ d.toNat := by
  have hdecomposed := Nat.div_add_mod n.toNat d.toNat
  have hmod := Nat.mod_lt n.toNat h
  have hzero : n % d = 0 ↔ n.toNat % d.toNat = 0 := by
    rw [← UInt64.toNat_inj, UInt64.toNat_mod]
    rfl
  rw [Nat.ceilDiv_eq_add_pred_div, ceilDiv]
  split
  · next hrest =>
      rw [hzero] at hrest
      rw [UInt64.toNat_div]
      refine ((Nat.div_eq_iff h).2 ?_).symm
      rw [Nat.mul_comm]
      omega
  · next hrest =>
      rw [hzero] at hrest
      -- something is left over, so the divisor is not 1 and the quotient is small
      have htwo : 2 ≤ d.toNat := by
        by_contra hsmall
        have hone : d.toNat = 1 := by omega
        rw [hone, Nat.mod_one] at hrest
        exact hrest rfl
      have hquotient : n.toNat / d.toNat ≤ n.toNat / 2 := Nat.div_le_div_left htwo (by decide)
      have hlt := n.toNat_lt
      have hone : (1 : UInt64).toNat = 1 := rfl
      rw [UInt64.toNat_add, UInt64.toNat_div, hone, Nat.mod_eq_of_lt (by omega)]
      refine ((Nat.div_eq_iff h).2 ?_).symm
      rw [Nat.add_mul, Nat.one_mul, Nat.mul_comm]
      omega

/-- A number that is not negative is the same as a signed and as an unsigned word. -/
theorem toNat_toUInt64_of_nonneg {i : Int64} (h : 0 ≤ i) : i.toUInt64.toNat = i.toInt.toNat := by
  have hsigned : 0 ≤ i.toBitVec.toInt := Int64.le_iff_toInt_le.1 h
  have hunsigned : i.toUInt64.toNat = i.toBitVec.toNat := rfl
  have hint : i.toInt = i.toBitVec.toInt := rfl
  have hlt := i.toBitVec.isLt
  rw [BitVec.toInt_eq_toNat_cond] at hsigned
  rw [hunsigned, hint, BitVec.toInt_eq_toNat_cond]
  split at hsigned <;> omega

/-- The number of pages is counted up to the range of its word. -/
theorem PageOf.toNat_totalPages_mod {α : Type} {p : PageOf α} (h : 0 ≤ p.total) :
    p.totalPages.toNat = pageCount p.total.toInt.toNat p.page.size.toNat % 2 ^ 32 := by
  have hsize := p.page.one_le_toNat_size
  unfold totalPages
  split
  · next hle =>
      have hnonpos : p.total.toInt ≤ 0 := Int64.le_iff_toInt_le.1 hle
      have hzero : p.total.toInt.toNat = 0 := by omega
      rw [hzero, pageCount, zero_ceilDiv]
      rfl
  · -- the size of a page is never raised
    have hword : (max p.page.size 1).toUInt64.toNat = p.page.size.toNat := by
      rw [UInt32.toNat_toUInt64, UInt32.toNat_max]
      exact max_eq_left hsize
    rw [UInt64.toNat_toUInt32, UInt64.toNat_max, toNat_ceilDiv (hword.symm ▸ hsize), hword,
      toNat_toUInt64_of_nonneg h, Nat.max_comm]
    rfl

/-- **The number of pages is counted without loss**, as long as it is in range. -/
theorem PageOf.toNat_totalPages {α : Type} {p : PageOf α} (h : 0 ≤ p.total)
    (hmax : pageCount p.total.toInt.toNat p.page.size.toNat < 2 ^ 32) :
    p.totalPages.toNat = pageCount p.total.toInt.toNat p.page.size.toNat := by
  rw [toNat_totalPages_mod h, Nat.mod_eq_of_lt hmax]

/-! ### Tiling -/

/-- The pages of a size up to the last one follow each other, and every row lies on one of them and
on no other. -/
structure Tiled (size : UInt32) (total last : Nat) : Prop where
  numbers : ∀ n, 1 ≤ n → n ≤ last →
    (Page.numbered size n).number.toNat = n ∧ (Page.numbered size n).size = size
  begins : (Page.numbered size 1).offset.toNat = 0
  joined : ∀ n, 1 ≤ n → n < last → (Page.numbered size n).offset.toNat +
    (Page.numbered size n).limit.toNat = (Page.numbered size (n + 1)).offset.toNat
  disjoint : ∀ n m, 1 ≤ n → n ≤ last → 1 ≤ m → m ≤ last → n ≠ m →
    Disjoint (Page.numbered size n).rows (Page.numbered size m).rows
  covered : ∀ row < total, ∃! n, (1 ≤ n ∧ n ≤ last) ∧ row ∈ (Page.numbered size n).rows

/-- **Pages tile the rows.** -/
theorem tiled {size : UInt32} (hpos : 1 ≤ size) (hle : size ≤ 500) {total : Nat}
    (hmax : pageCount total size.toNat < 2 ^ 32) :
    Tiled size total (pageCount total size.toNat) := by
  have hsize : 0 < size.toNat := UInt32.le_iff_toNat_le.1 hpos
  have hnumber : ∀ n, 1 ≤ n → n ≤ pageCount total size.toNat →
      (Page.numbered size n).number.toNat = n := fun n hone hn =>
    Page.toNat_number_numbered hone (by omega) size
  -- a row lies on one page at most
  have hplace : ∀ n row, 1 ≤ n → n ≤ pageCount total size.toNat →
      (row ∈ (Page.numbered size n).rows ↔ n = row / size.toNat + 1) := by
    intro n row hone hn
    rw [Page.mem_rows_iff, hnumber n hone hn, Page.size_numbered hpos hle]
  refine ⟨?_, ?_, ?_, ?_, ?_⟩
  · exact fun n hone hn => ⟨hnumber n hone hn, Page.size_numbered hpos hle n⟩
  · rw [Page.toNat_offset, hnumber 1 le_rfl (le_max_left _ _), Nat.sub_self, Nat.zero_mul]
  · intro n hone hn
    rw [Page.offset_add_limit, Page.toNat_offset, hnumber n hone (by omega),
      hnumber (n + 1) (by omega) hn, Page.size_numbered hpos hle, Page.size_numbered hpos hle,
      Nat.add_sub_cancel]
  · intro n m hone hn hone' hm hne
    rw [Finset.disjoint_left]
    intro row hrow hrow'
    exact hne (((hplace n row hone hn).1 hrow).trans ((hplace m row hone' hm).1 hrow').symm)
  · intro row hrow
    have hlast := div_lt_pageCount hsize hrow
    have hone : 1 ≤ row / size.toNat + 1 := Nat.le_add_left 1 _
    refine ⟨row / size.toNat + 1, ⟨⟨hone, hlast⟩, ?_⟩, ?_⟩
    · exact (hplace _ row hone hlast).2 rfl
    · rintro n ⟨⟨hone, hn⟩, hmem⟩
      exact (hplace n row hone hn).1 hmem

/-! ### Following links -/

/-- The page that parameters ask for. -/
def pageAsked (params : Dict String) : Page := (Query.ofPairs params.toList).page

/-- A walk that goes on as long as there is somewhere to go. -/
inductive Walk {α : Type} (next : α → Option α) : α → List α → Prop where
  | stop {a : α} (h : next a = none) : Walk next a [a]
  | step {a b : α} {visited : List α} (h : next a = some b) (w : Walk next b visited) :
      Walk next a (a :: visited)

namespace Service

variable (s : Service) (total : Int64) (items : Page → List Record)

/-- The page that answers parameters, with the rows of each page and the number of all rows. -/
def answered (params : Dict String) : PageOf Record :=
  ⟨items (pageAsked params), total, pageAsked params⟩

/-- The parameters that are read from a link to rows of the collection. -/
def paramsOf (link : String) : Dict String :=
  .ofList (Text.formPairs (link.toList.drop (s.collectionUrl.toList.length + 1)))

/-- The parameters that are sent next by who follows a link of a document. -/
def followed (name : String) (params : Dict String) : Option (Dict String) :=
  ((s.page (answered total items params) params).link? name).map s.paramsOf

/-- A link to a page carries the parameters with that page. -/
theorem paramsOf_pageLink (params : Dict String) (number size : UInt32) :
    s.paramsOf (s.pageLink params number size) = withPage params number size := by
  have hrest : (s.pageLink params number size).toList.drop (s.collectionUrl.toList.length + 1) =
      (queryText (withPage params number size)).toList := by
    rw [s.pageLink_eq, String.toList_append, String.toList_append, List.append_assoc,
      List.drop_length_add_append]
    rfl
  rw [paramsOf, hrest, (readsAs_queryText _).ofList]

/-- Who follows a link to a page sends the parameters with that page. -/
theorem followed_eq {name : String} (hname : name ≠ "self") (params : Dict String) :
    s.followed total items name params =
      ((answered total items params).numberOf? name).map fun number =>
        withPage params number (pageAsked params).size := by
  rw [followed, s.link?_page, if_neg hname, Option.map_map]
  refine congrArg (Option.map · _) ?_
  funext number
  exact s.paramsOf_pageLink params number (pageAsked params).size

/-- A page that a link leads to is the page of its number. -/
theorem pageAsked_withPage {number : UInt32} (h : 1 ≤ number) (params : Dict String) :
    pageAsked (withPage params number (pageAsked params).size) =
      .numbered (pageAsked params).size number.toNat := by
  rw [pageAsked, Query.page_turned h (turned_withPage params number (pageAsked params).size),
    Page.numbered, UInt32.ofNat_toNat]

/-! ### One step -/

section Step

variable {s total items} {params : Dict String}

/-- On every page but the first the link to the previous one leads to the page in front. -/
theorem followed_prev (h : (pageAsked params).number ≠ 1) :
    ∃ d, s.followed total items "prev" params = some d ∧
      pageAsked d = .numbered (pageAsked params).size ((pageAsked params).number.toNat - 1) := by
  have hpos := UInt32.le_iff_toNat_le.1 (pageAsked params).number_pos
  have hne : (1 : UInt32).toNat ≠ (pageAsked params).number.toNat :=
    fun heq => h (UInt32.toNat_inj.1 heq).symm
  have hprevious : (answered total items params).hasPrevious = true :=
    decide_eq_true (UInt32.lt_iff_toNat_lt.2 (Nat.lt_of_le_of_ne hpos hne))
  refine ⟨withPage params ((pageAsked params).number - 1) (pageAsked params).size, ?_, ?_⟩
  · rw [s.followed_eq total items (by decide), PageOf.numberOf?_prev, hprevious]
    rfl
  · have hone : 1 ≤ (pageAsked params).number - 1 :=
      PageOf.one_le_previous (p := answered total items params) hprevious
    have hnumber : ((pageAsked params).number - 1).toNat + 1 = (pageAsked params).number.toNat :=
      (answered total items params).toNat_previous
    rw [pageAsked_withPage hone, ← hnumber, Nat.add_sub_cancel]

/-- On the first page there is no link to a previous one. -/
theorem followed_prev_none (h : (pageAsked params).number = 1) :
    s.followed total items "prev" params = none := by
  have hprevious : (answered total items params).hasPrevious = false := by
    refine decide_eq_false ?_
    change ¬ 1 < (pageAsked params).number
    rw [h]
    decide
  rw [s.followed_eq total items (by decide), PageOf.numberOf?_prev, hprevious]
  rfl

variable (htotal : 0 ≤ total)
  (hmax : pageCount total.toInt.toNat (pageAsked params).size.toNat < 2 ^ 32)

include htotal hmax

/-- A document counts the pages of its total. -/
theorem toNat_totalPages_answered : (answered total items params).totalPages.toNat =
    pageCount total.toInt.toNat (pageAsked params).size.toNat :=
  PageOf.toNat_totalPages (p := answered total items params) htotal hmax

/-- In front of the last page the link to the next one leads to the page behind. -/
theorem followed_next (h : (pageAsked params).number.toNat <
    pageCount total.toInt.toNat (pageAsked params).size.toNat) :
    ∃ d, s.followed total items "next" params = some d ∧
      pageAsked d = .numbered (pageAsked params).size ((pageAsked params).number.toNat + 1) := by
  have hnext : (answered total items params).hasNext = true := by
    refine decide_eq_true (UInt32.lt_iff_toNat_lt.2 ?_)
    rw [toNat_totalPages_answered htotal hmax]
    exact h
  refine ⟨withPage params ((pageAsked params).number + 1) (pageAsked params).size, ?_, ?_⟩
  · rw [s.followed_eq total items (by decide), PageOf.numberOf?_next, hnext]
    rfl
  · have hone : 1 ≤ (pageAsked params).number + 1 :=
      PageOf.one_le_next (p := answered total items params) hnext
    have hnumber : ((pageAsked params).number + 1).toNat = (pageAsked params).number.toNat + 1 :=
      PageOf.toNat_next (p := answered total items params) hnext
    rw [pageAsked_withPage hone, hnumber]

/-- From the last page on there is no link to a next one. -/
theorem followed_next_none (h : pageCount total.toInt.toNat (pageAsked params).size.toNat ≤
    (pageAsked params).number.toNat) : s.followed total items "next" params = none := by
  have hnext : (answered total items params).hasNext = false := by
    refine decide_eq_false fun hlt => ?_
    rw [UInt32.lt_iff_toNat_lt, toNat_totalPages_answered htotal hmax] at hlt
    exact Nat.not_lt.2 h hlt
  rw [s.followed_eq total items (by decide), PageOf.numberOf?_next, hnext]
  rfl

end Step

/-! ### The whole way -/

/-- **From any page on the links to the next one lead through all that follow**, and to no other. -/
theorem walk_next {size : UInt32} (hpos : 1 ≤ size) (hle : size ≤ 500) (htotal : 0 ≤ total)
    {last : Nat} (hlast : pageCount total.toInt.toNat size.toNat = last) (hmax : last < 2 ^ 32)
    {n k : Nat} (hone : 1 ≤ n) (hn : n + k = last) {params : Dict String}
    (hpage : pageAsked params = .numbered size n) :
    ∃ visited, Walk (s.followed total items "next") params visited ∧
      visited.map pageAsked = (List.range' n (k + 1)).map (.numbered size) := by
  have hasked : ∀ n, 1 ≤ n → n ≤ last → ∀ params, pageAsked params = .numbered size n →
      (pageAsked params).size = size ∧ (pageAsked params).number.toNat = n := by
    intro n hone hn params hpage
    rw [hpage]
    exact ⟨Page.size_numbered hpos hle n, Page.toNat_number_numbered hone (by omega) size⟩
  -- the pages that are still to come, one fewer with every step
  induction k generalizing n params with
  | zero =>
      obtain ⟨hsize, hnumber⟩ := hasked n hone (by omega) params hpage
      have hnone : s.followed total items "next" params = none :=
        followed_next_none htotal (by rw [hsize, hlast]; exact hmax)
          (by rw [hsize, hlast, hnumber]; omega)
      refine ⟨[params], .stop hnone, ?_⟩
      rw [List.map_singleton, hpage]
      rfl
  | succ k ih =>
      obtain ⟨hsize, hnumber⟩ := hasked n hone (by omega) params hpage
      obtain ⟨d, hnext, hd⟩ := followed_next (s := s) htotal
        (by rw [hsize, hlast]; exact hmax) (by rw [hsize, hlast, hnumber]; omega)
      rw [hsize, hnumber] at hd
      obtain ⟨visited, hwalk, hvisited⟩ := ih (by omega) (by omega) hd
      refine ⟨params :: visited, .step hnext hwalk, ?_⟩
      rw [List.map_cons, hvisited, hpage, ← List.map_cons, ← List.range'_succ]

/-- Where links lead from a page on, when there is a number of pages. -/
structure Walked (count : Nat) (params : Dict String) : Prop where
  /-- From the link to the first page on the links to the next one lead through all pages in order,
  and then there is none. -/
  all : ∃ first visited, s.followed total items "first" params = some first ∧
    Walk (s.followed total items "next") first visited ∧
    visited.map pageAsked = (List.range' 1 count).map (.numbered (pageAsked params).size)
  last : ∃ d, s.followed total items "last" params = some d ∧
    pageAsked d = .numbered (pageAsked params).size count
  prev : (pageAsked params).number ≠ 1 → ∃ d, s.followed total items "prev" params = some d ∧
    pageAsked d = .numbered (pageAsked params).size ((pageAsked params).number.toNat - 1)
  prev_none : (pageAsked params).number = 1 → s.followed total items "prev" params = none
  next : (pageAsked params).number.toNat < count →
    ∃ d, s.followed total items "next" params = some d ∧
      pageAsked d = .numbered (pageAsked params).size ((pageAsked params).number.toNat + 1)
  next_none : count ≤ (pageAsked params).number.toNat →
    s.followed total items "next" params = none

/-- **Links lead through all pages.** -/
theorem walked {total : Int64} (htotal : 0 ≤ total) {params : Dict String}
    (hmax : pageCount total.toInt.toNat (pageAsked params).size.toNat < 2 ^ 32) :
    s.Walked total items (pageCount total.toInt.toNat (pageAsked params).size.toNat) params where
  all := by
    have hone : 1 ≤ pageCount total.toInt.toNat (pageAsked params).size.toNat := le_max_left _ _
    obtain ⟨visited, hwalk, hvisited⟩ := s.walk_next total items (pageAsked params).size_pos
      (pageAsked params).size_le htotal rfl hmax le_rfl (Nat.add_sub_cancel' hone)
      (pageAsked_withPage (UInt32.le_refl 1) params)
    rw [Nat.sub_add_cancel hone] at hvisited
    exact ⟨_, visited, s.followed_eq total items (by decide) params, hwalk, hvisited⟩
  last := by
    have hcount : (answered total items params).totalPages.toNat =
        pageCount total.toInt.toNat (pageAsked params).size.toNat :=
      toNat_totalPages_answered htotal hmax
    have hone : 1 ≤ (answered total items params).totalPages := by
      rw [UInt32.le_iff_toNat_le, hcount]
      exact le_max_left _ _
    refine ⟨_, s.followed_eq total items (by decide) params, ?_⟩
    rw [pageAsked_withPage hone, hcount]
  prev := followed_prev
  prev_none := followed_prev_none
  next := followed_next htotal hmax
  next_none := followed_next_none htotal hmax

end Service

/-! ### All together -/

/-- Nothing wraps around where the rows in front of a page are counted and where its neighbours are
numbered. -/
structure PageOf.Exact {α : Type} (p : PageOf α) : Prop where
  offset : p.page.offset.toNat + p.page.limit.toNat = p.page.number.toNat * p.page.size.toNat
  prev : p.hasPrevious = true → (p.page.number - 1).toNat + 1 = p.page.number.toNat
  next : p.hasNext = true → (p.page.number + 1).toNat = p.page.number.toNat + 1

theorem PageOf.exact {α : Type} (p : PageOf α) : p.Exact where
  offset := p.page.offset_add_limit
  prev _ := p.toNat_previous
  next := toNat_next

/-- **The pages of a size tile the rows, and links lead through all of them**, as long as the number
of pages is in range.  From a page with any number, also behind the last one, the links and the rows
in front are counted exactly. -/
theorem Service.pages_walked (total : Int64) (htotal : 0 ≤ total) (size : UInt32) (hpos : 1 ≤ size)
    (hle : size ≤ 500) (hmax : pageCount total.toInt.toNat size.toNat < 2 ^ 32) :
    Tiled size total.toInt.toNat (pageCount total.toInt.toNat size.toNat) ∧
    (∀ (s : Service) (items : Page → List Record) (params : Dict String),
      (pageAsked params).size = size →
        s.Walked total items (pageCount total.toInt.toNat size.toNat) params) ∧
    ∀ (items : List Record) (number : UInt32),
      PageOf.Exact ⟨items, total, .clamped number size⟩ := by
  refine ⟨tiled hpos hle hmax, ?_, fun items number => PageOf.exact _⟩
  rintro s items params rfl
  exact s.walked items htotal hmax

/-- Fifty-one rows take three pages of twenty-five. -/
theorem Service.pages_walked_fiftyOne :
    Tiled 25 51 3 ∧
    (∀ (s : Service) (items : Page → List Record),
      s.Walked 51 items 3 (.ofList [("filter[title]", "a&b=c+d"), ("page[size]", "25")])) ∧
    ∀ (items : List Record) (number : UInt32),
      PageOf.Exact ⟨items, 51, .clamped number 25⟩ := by
  obtain ⟨htiled, hwalked, hexact⟩ :=
    Service.pages_walked 51 (by decide) 25 (by decide) (by decide) (by decide)
  exact ⟨htiled, fun s items => hwalked s items _ (by decide), hexact⟩

end Circulation
