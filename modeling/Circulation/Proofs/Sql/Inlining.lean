/-
**Values in place of placeholders.**

A statement is shown with its values in place of its placeholders, and then every date literal of
the text is wrapped.  The second step goes over text that the first one has put in.  What holds it
to the literals themselves are the words between them: no literal begins in a word, none goes on
from a value into the word behind it, and so every value is wrapped as if it stood alone.

Main definitions:

* `Calm` — words in which and from which no literal begins;
* `Param.shown` — the literal of a value, wrapped by itself;
* `Filled` — a text and what it becomes when its placeholders are filled.

Main results:

* `wrapDateChars_literalChars_append` — a value is wrapped by itself, whatever word follows;
* `Layout.filled_display` — **to show a text is to fill its placeholders with values that were
  wrapped one by one**.
-/

import Circulation.Proofs.Sql.Placeholder
import Circulation.Proofs.Sql.Quoted

set_option relaxedAutoImplicit false
set_option autoImplicit false

namespace Circulation

open Text SqlLiteral

/-! ### Words -/

/-- A word without dollar signs and quotes that is wrapped by itself, whatever follows. -/
structure Calm (w : List Char) : Prop where
  plain : Plain w
  unquoted : '\'' ∉ w
  wrapped : ∀ t, wrapDateChars (w ++ t) = w ++ wrapDateChars t

theorem calm_nil : Calm [] := ⟨List.not_mem_nil, List.not_mem_nil, fun _ => rfl⟩

theorem calm_append {v w : List Char} (hv : Calm v) (hw : Calm w) : Calm (v ++ w) where
  plain := plain_append hv.plain hw.plain
  unquoted := by
    rw [List.mem_append]
    exact fun h => h.elim hv.unquoted hw.unquoted
  wrapped := fun t => by
    rw [List.append_assoc, hv.wrapped, hw.wrapped, List.append_assoc]

/-- Whether at every place of a text another character stands than the opening of a call has. -/
def opensNowhere : List Char → Bool
  | [] => true
  | c :: cs => ((c :: cs).zip opening).any (fun p => p.1 != p.2) && opensNowhere cs

/-- What begins a text agrees with it character by character. -/
theorem eq_of_mem_zip_front {front w t : List Char} (h : front <+: w ++ t) :
    ∀ p ∈ w.zip front, p.1 = p.2 := by
  induction w generalizing front with
  | nil =>
      intro p hp
      cases hp
  | cons c w ih =>
      cases front with
      | nil =>
          intro p hp
          cases hp
      | cons d front =>
          obtain ⟨rfl, hrest⟩ := List.cons_prefix_cons.1 h
          intro p hp
          rw [List.zip_cons_cons] at hp
          rcases List.mem_cons.1 hp with rfl | hp
          · rfl
          · exact ih hrest p hp

theorem call?_of_differs {w t : List Char}
    (h : (w.zip opening).any (fun p => p.1 != p.2) = true) : call? (w ++ t) = none := by
  rw [Option.eq_none_iff_forall_ne_some]
  rintro ⟨text, rest⟩ hcall
  obtain ⟨blanks, lit, rfl, -, -, heq⟩ := call?_eq_some_iff.1 hcall
  obtain ⟨p, hp, hne⟩ := List.any_eq_true.1 h
  have hprefix : opening <+: w ++ t := ⟨blanks ++ lit ++ rest, by rw [heq]; simp⟩
  exact absurd (eq_of_mem_zip_front hprefix p hp) (by simpa using hne)

/-- A word in which no call can begin is wrapped by itself. -/
theorem calm_of_opensNowhere {w : List Char} (hplain : Plain w) (hquote : '\'' ∉ w)
    (hopens : opensNowhere w = true) : Calm w := by
  refine ⟨hplain, hquote, fun t => ?_⟩
  clear hplain
  induction w with
  | nil => rfl
  | cons c w ih =>
      rw [List.mem_cons, not_or] at hquote
      rw [opensNowhere, Bool.and_eq_true] at hopens
      have hnone : literalPiece? (c :: (w ++ t)) = none :=
        literalPiece?_of_call? (Ne.symm hquote.1) (call?_of_differs hopens.1)
      rw [List.cons_append, wrapDateChars_of_none hnone, ih hquote.2 hopens.2, List.cons_append]

/-- A word without a `T` is wrapped by itself. -/
theorem calm_of_notMem {w : List Char} (hplain : Plain w) (hquote : '\'' ∉ w) (hT : 'T' ∉ w) :
    Calm w := by
  refine calm_of_opensNowhere hplain hquote ?_
  clear hplain hquote
  induction w with
  | nil => rfl
  | cons c w ih =>
      rw [List.mem_cons, not_or] at hT
      have hc : (c != 'T') = true := bne_iff_ne.2 (Ne.symm hT.1)
      have hopening : opening = 'T' :: opening.tail := rfl
      rw [opensNowhere, ih hT.2, hopening, List.zip_cons_cons, List.any_cons, hc]
      rfl

/-! ### Values -/

/-- The literal of a value, wrapped by itself. -/
def Param.shown (p : Param) : List Char := wrapDateChars p.literalChars

/-- A number is written with digits and a sign. -/
theorem calm_intChars (i : Int) : Calm (intChars i) := by
  have hmem : ∀ c ∈ intChars i, c = '-' ∨ c.isDigit = true := by
    intro c hc
    have hdigit : c ∈ Nat.toDigits 10 i.natAbs → c.isDigit = true :=
      Nat.isDigit_of_mem_toDigits (by decide) (by decide)
    unfold intChars at hc
    split at hc
    · exact (List.mem_cons.1 hc).imp id hdigit
    · exact Or.inr (hdigit hc)
  have hnotMem : ∀ {c : Char}, c ≠ '-' → c.isDigit = false → c ∉ intChars i := by
    intro c hc hdigit h
    rcases hmem c h with heq | h
    · exact hc heq
    · rw [hdigit] at h
      cases h
  exact calm_of_notMem (hnotMem (by decide) rfl) (hnotMem (by decide) rfl)
    (hnotMem (by decide) rfl)

/-- The literals without quotes are words. -/
theorem Param.calm_literalChars {p : Param} (htext : ∀ s, p ≠ .text s) (hdate : ∀ d, p ≠ .date d) :
    Calm p.literalChars := by
  have hword : ∀ w ∈ ["NULL".toList, "TRUE".toList, "FALSE".toList],
      '$' ∉ w ∧ '\'' ∉ w ∧ opensNowhere w = true := by decide
  have hcalm : ∀ w ∈ ["NULL".toList, "TRUE".toList, "FALSE".toList], Calm w := fun w hw =>
    calm_of_opensNowhere (hword w hw).1 (hword w hw).2.1 (hword w hw).2.2
  match p with
  | .null _ => exact hcalm "NULL".toList (by decide)
  | .text s => exact absurd rfl (htext s)
  | .int i => exact calm_intChars i.toInt
  | .bool true => exact hcalm "TRUE".toList (by decide)
  | .bool false => exact hcalm "FALSE".toList (by decide)
  | .date d => exact absurd rfl (hdate d)

/-- A word is shown as it is. -/
theorem Param.shown_of_calm {p : Param} (h : Calm p.literalChars) : p.shown = p.literalChars := by
  have hwrapped := h.wrapped []
  simp only [List.append_nil, wrapDateChars_nil] at hwrapped
  exact hwrapped

/-- **A value is wrapped by itself**, whatever may follow a placeholder. -/
theorem wrapDateChars_literalChars_append (p : Param) {t : List Char} (ht : Parted t) :
    wrapDateChars (p.literalChars ++ t) = p.shown ++ wrapDateChars t := by
  by_cases hquoted : ∃ cs, p.literalChars = Param.quotedChars cs
  · obtain ⟨cs, hcs⟩ := hquoted
    rw [Param.shown, hcs]
    exact wrapDateChars_quotedChars_append cs fun c hc => (ht c hc).2
  · have hcalm : Calm p.literalChars := by
      refine Param.calm_literalChars ?_ ?_
      · rintro s rfl
        exact hquoted ⟨_, rfl⟩
      · rintro d rfl
        exact hquoted ⟨_, rfl⟩
    rw [hcalm.wrapped, Param.shown_of_calm hcalm]

/-! ### Putting values in -/

section Inlining

variable {params : List Param}

theorem inlineChars_plain_append {w : List Char} (hw : Plain w) (t : List Char) :
    inlineChars params (w ++ t) = w ++ inlineChars params t := by
  induction w with
  | nil => rfl
  | cons c w ih =>
      have hc : c ≠ '$' := fun h => hw (h ▸ List.mem_cons_self)
      have hrest : Plain w := fun h => hw (List.mem_cons_of_mem c h)
      rw [List.cons_append, inlineChars, if_neg hc, ih hrest, List.cons_append]

/-- The digits of a number find the value of this number. -/
theorem paramOf?_toDigits {i : Nat} (hpos : 0 < i) (hlt : i < UInt64.size) :
    paramOf? params (Nat.toDigits 10 i) = params[i - 1]? := by
  have hunsigned := readUnsigned?_repr i
  rw [Nat.toList_repr] at hunsigned
  have hnat : (UInt64.ofNat i).toNat = i := UInt64.toNat_ofNat_of_lt' hlt
  have hne : UInt64.ofNat i ≠ 0 := by
    intro h
    have hzero : (0 : UInt64).toNat = i := h ▸ hnat
    exact absurd hzero (Nat.ne_of_lt hpos)
  unfold paramOf?
  rw [readUInt64?, hunsigned, Option.bind_some, if_pos hlt]
  split
  · next h => cases h
  · next h => exact absurd (Option.some.inj h) hne
  · next n _ h =>
      obtain rfl := Option.some.inj h
      rw [hnat]

/-- A placeholder is replaced by the value of its number. -/
theorem inlineChars_placeholder_append {i : Nat} (hpos : 0 < i) (hlt : i < UInt64.size) {p : Param}
    (hp : params[i - 1]? = some p) {t : List Char} (ht : Parted t) :
    inlineChars params ((placeholder i).toList ++ t) = p.literalChars ++ inlineChars params t := by
  have hdigits : ∀ c ∈ Nat.toDigits 10 i, isDecimalDigit c = true := fun c hc =>
    isDecimalDigit_of_isDigit (Nat.isDigit_of_mem_toDigits (by decide) (by decide) hc)
  have htake : t.takeWhile isDecimalDigit = [] := by
    cases t with
    | nil => rfl
    | cons c t => rw [List.takeWhile_cons_of_neg (by simp [(ht c rfl).2])]
  have hdrop : t.dropWhile isDecimalDigit = t := by
    cases t with
    | nil => rfl
    | cons c t => rw [List.dropWhile_cons_of_neg (by simp [(ht c rfl).2])]
  rw [toList_placeholder_eq, List.cons_append, inlineChars, if_pos rfl]
  simp only [List.takeWhile_append_of_pos hdigits, List.dropWhile_append_of_pos hdigits, htake,
    hdrop, List.append_nil, paramOf?_toDigits hpos hlt, hp]

/-- What may follow a placeholder may follow its value too. -/
theorem parted_inlineChars {t : List Char} (ht : Parted t) : Parted (inlineChars params t) := by
  cases t with
  | nil =>
      rw [inlineChars]
      exact ht
  | cons c t =>
      rw [inlineChars, if_neg (ht c rfl).1]
      exact ht

end Inlining

/-! ### Filled texts -/

/-- A text, and what becomes of it when its placeholders, numbered from `i` on, are replaced by
values.  Nothing else in the text is a placeholder or a quote. -/
inductive Filled : Nat → List (List Char) → List Char → List Char → Prop
  | nil (i : Nat) : Filled i [] [] []
  | word {i : Nat} {values : List (List Char)} {w cs ds : List Char} (hdollar : '$' ∉ w)
      (hquote : '\'' ∉ w) (h : Filled i values cs ds) : Filled i values (w ++ cs) (w ++ ds)
  | slot {i : Nat} {values : List (List Char)} {cs ds : List Char} (value : List Char)
      (h : Filled (i + 1) values cs ds) (hs : Parted cs) :
      Filled i (value :: values) ((placeholder i).toList ++ cs) (value ++ ds)

/-- **To show a text is to fill its placeholders with values that were wrapped one by one**, as long
as the values can be counted. -/
theorem Layout.filled_display {params rest : List Param} {i n : Nat} {cs : List Char}
    (h : Layout Calm i n cs) (hrest : params.drop (i - 1) = rest) (hn : rest.length = n)
    (hpos : 0 < i) (hlt : params.length < UInt64.size) :
    Filled i (rest.map Param.shown) cs (wrapDateChars (inlineChars params cs)) := by
  induction h generalizing rest with
  | nil i =>
      obtain rfl := List.length_eq_zero_iff.1 hn
      rw [inlineChars, wrapDateChars_nil]
      exact .nil i
  | word hw _ ih =>
      rw [inlineChars_plain_append hw.plain, hw.wrapped]
      exact .word hw.plain hw.unquoted (ih hrest hn hpos)
  | @slot i n cs h hs ih =>
      obtain ⟨p, rest, rfl⟩ := List.exists_cons_of_length_eq_add_one hn
      have hlength := congrArg List.length hrest
      have hget : params[i - 1]? = some p := by
        have h := congrArg List.head? hrest
        rwa [List.head?_drop] at h
      have hdrop : params.drop (i + 1 - 1) = rest := by
        have h := congrArg List.tail hrest
        rwa [List.tail_drop, Nat.sub_add_cancel hpos] at h
      simp only [List.length_drop, List.length_cons] at hlength
      rw [inlineChars_placeholder_append hpos (by omega) hget hs,
        wrapDateChars_literalChars_append p (parted_inlineChars hs)]
      exact .slot _ (ih hdrop (Nat.succ.inj hn) (Nat.succ_pos i)) hs

end Circulation
