/-
**Quoted texts, and the dates that seem to stand in them.**

A text is quoted by single quotes around it, with every quote inside written twice, and it can be
read back.  What looks like a quoted date may still occur in a quoted text: the quote in front of
the date may be the one that opens the text or the second one of a pair, and the quote behind it may
be the one that closes the text or the first one of a pair.

Main definitions:

* `closeQuoted?`, `readQuoted?` — reading a quoted text at the front of another;
* `QuotesDate` — a text that holds a date between quotes, its own two included.

Main results:

* `readQuoted?_quotedChars` — **a quoted text is read back**;
* `infix_quotedChars_iff` — a quoted date occurs in a quoted text as it does between simple quotes;
* `wrapDateChars_quotedChars_iff` — **a quoted text stays as it is unless it quotes a date**;
* `wrapDateChars_append_of_quote` — **a text with a quote at its end is wrapped by itself**.
-/

import Circulation.Proofs.Calendar.Wrapping
import Circulation.Sql.Param
import Mathlib.Data.List.Basic

set_option relaxedAutoImplicit false
set_option autoImplicit false

namespace Circulation

open Text SqlLiteral

/-! ### Quoting and reading -/

/-- A text with every quote written twice. -/
def doubled (cs : List Char) : List Char :=
  cs.flatMap fun c => if c = '\'' then ['\'', '\''] else [c]

theorem quotedChars_eq (cs : List Char) :
    Param.quotedChars cs = '\'' :: (doubled cs ++ ['\'']) := rfl

@[simp] theorem doubled_nil : doubled [] = [] := rfl

theorem doubled_quote (cs : List Char) : doubled ('\'' :: cs) = '\'' :: '\'' :: doubled cs := rfl

theorem doubled_of_ne {c : Char} (hc : c ≠ '\'') (cs : List Char) :
    doubled (c :: cs) = c :: doubled cs := by
  rw [doubled, List.flatMap_cons, if_neg hc]
  rfl

/-- A text without quotes is written as it is. -/
theorem doubled_of_notMem {cs : List Char} (h : '\'' ∉ cs) : doubled cs = cs := by
  induction cs with
  | nil => rfl
  | cons c cs ih =>
      rw [List.mem_cons, not_or] at h
      rw [doubled_of_ne (Ne.symm h.1), ih h.2]

/-- The text up to the quote that closes it, and the rest.  Two quotes stand for one. -/
def closeQuoted? : List Char → Option (List Char × List Char)
  | [] => none
  | '\'' :: '\'' :: cs => (closeQuoted? cs).map fun p => ('\'' :: p.1, p.2)
  | '\'' :: cs => some ([], cs)
  | c :: cs => (closeQuoted? cs).map fun p => (c :: p.1, p.2)

/-- The text that is quoted at the front of another, and the rest. -/
def readQuoted? : List Char → Option (List Char × List Char)
  | '\'' :: cs => closeQuoted? cs
  | _ => none

theorem closeQuoted?_doubled (cs : List Char) {rest : List Char} (h : rest.head? ≠ some '\'') :
    closeQuoted? (doubled cs ++ '\'' :: rest) = some (cs, rest) := by
  induction cs with
  | nil =>
      cases rest with
      | nil => rfl
      | cons c rest =>
          have hc : c ≠ '\'' := fun heq => h (by rw [heq]; rfl)
          simp [closeQuoted?, hc]
  | cons c cs ih =>
      by_cases hc : c = '\''
      · subst hc
        rw [doubled_quote, List.cons_append, List.cons_append, closeQuoted?, ih]
        rfl
      · rw [doubled_of_ne hc, List.cons_append, closeQuoted?, ih]
        · rfl
        · exact fun _ heq => absurd heq hc
        · exact hc

/-- **A quoted text is read back**, if no other quote follows it. -/
theorem readQuoted?_quotedChars (cs : List Char) {rest : List Char} (h : rest.head? ≠ some '\'') :
    readQuoted? (Param.quotedChars cs ++ rest) = some (cs, rest) := by
  have hchars : Param.quotedChars cs ++ rest = '\'' :: (doubled cs ++ '\'' :: rest) := by
    simp [quotedChars_eq]
  rw [hchars]
  exact closeQuoted?_doubled cs h

/-! ### Dates between quotes -/

/-- A text that holds a date between quotes, where it may be the quotes of the text itself. -/
def QuotesDate (cs : List Char) : Prop :=
  ∃ lit, quotedDate.fits lit = true ∧ lit <:+: '\'' :: (cs ++ ['\''])

section Doubled

variable {date : List Char}

/-- A date and a quote stand in front of a text as they do with every quote written twice. -/
theorem prefix_doubled_iff (hquote : '\'' ∉ date) (cs : List Char) :
    date ++ ['\''] <+: doubled cs ++ ['\''] ↔ date ++ ['\''] <+: cs ++ ['\''] := by
  induction date generalizing cs with
  | nil =>
      cases cs with
      | nil => rfl
      | cons c cs =>
          by_cases hc : c = '\''
          · subst hc
            simp [doubled_quote]
          · simp [doubled_of_ne hc, List.cons_prefix_cons, Ne.symm hc]
  | cons d date ih =>
      rw [List.mem_cons, not_or] at hquote
      cases cs with
      | nil => rfl
      | cons c cs =>
          by_cases hc : c = '\''
          · subst hc
            simp [doubled_quote, List.cons_prefix_cons, Ne.symm hquote.1]
          · simp only [doubled_of_ne hc, List.cons_append, List.cons_prefix_cons, ih hquote.2]

/-- A quoted date occurs behind the first quote as it does with every quote written twice. -/
theorem infix_doubled_iff (hne : date ≠ []) (hquote : '\'' ∉ date) (cs : List Char) :
    '\'' :: (date ++ ['\'']) <:+: doubled cs ++ ['\''] ↔
      '\'' :: (date ++ ['\'']) <:+: cs ++ ['\''] := by
  induction cs with
  | nil => rfl
  | cons c cs ih =>
      by_cases hc : c = '\''
      · subst hc
        -- the quote in front of the date is not the first one of the pair
        have hfirst : ¬('\'' :: (date ++ ['\'']) <+: '\'' :: '\'' :: (doubled cs ++ ['\''])) := by
          obtain ⟨d, rest, rfl⟩ := List.exists_cons_of_ne_nil hne
          intro h
          have hd := (List.cons_prefix_cons.1 (List.cons_prefix_cons.1 h).2).1
          exact hquote (hd ▸ List.mem_cons_self)
        rw [doubled_quote, List.cons_append, List.cons_append, List.infix_cons_iff,
          or_iff_right hfirst, List.cons_append, List.infix_cons_iff, List.infix_cons_iff, ih,
          List.cons_prefix_cons, List.cons_prefix_cons, prefix_doubled_iff hquote]
      · have hfirst : ∀ ds, ¬('\'' :: (date ++ ['\'']) <+: c :: ds) :=
          fun ds h => hc (List.cons_prefix_cons.1 h).1.symm
        rw [doubled_of_ne hc, List.cons_append, List.cons_append, List.infix_cons_iff,
          List.infix_cons_iff, or_iff_right (hfirst _), or_iff_right (hfirst _), ih]

end Doubled

/-- **A quoted date occurs in a quoted text as it does between simple quotes.** -/
theorem infix_quotedChars_iff {lit : List Char} (h : quotedDate.fits lit = true) (cs : List Char) :
    lit <:+: Param.quotedChars cs ↔ lit <:+: '\'' :: (cs ++ ['\'']) := by
  obtain ⟨date, rfl, hdate⟩ := exists_date_of_fits h
  have hne : date ≠ [] := by
    rintro rfl
    cases hdate
  have hquote := notMem_of_fits_isoDate hdate
  rw [quotedChars_eq, List.infix_cons_iff, List.infix_cons_iff, infix_doubled_iff hne hquote,
    List.cons_prefix_cons, List.cons_prefix_cons, prefix_doubled_iff hquote]

/-- In a quoted text a quote behind another character has a second one behind it, unless it closes
the text. -/
theorem eq_quote_of_suffix_doubled {cs more : List Char} {c d : Char} (hc : c ≠ '\'')
    (h : c :: '\'' :: d :: more <:+ doubled cs ++ ['\'']) : d = '\'' := by
  induction cs with
  | nil =>
      have hle := h.length_le
      simp at hle
  | cons a cs ih =>
      by_cases ha : a = '\''
      · subst ha
        rw [doubled_quote, List.cons_append, List.cons_append] at h
        rcases List.suffix_cons_iff.1 h with heq | h
        · exact absurd (List.cons.inj heq).1 hc
        · rcases List.suffix_cons_iff.1 h with heq | h
          · exact absurd (List.cons.inj heq).1 hc
          · exact ih h
      · rw [doubled_of_ne ha, List.cons_append] at h
        rcases List.suffix_cons_iff.1 h with heq | h
        · obtain ⟨-, hrest⟩ := List.cons.inj heq
          cases cs with
          | nil => cases hrest
          | cons b cs =>
              by_cases hb : b = '\''
              · subst hb
                rw [doubled_quote] at hrest
                exact (List.cons.inj (List.cons.inj hrest).2).1
              · rw [doubled_of_ne hb] at hrest
                exact absurd (List.cons.inj hrest).1.symm hb
        · exact ih h

/-- No date in a quoted text stands behind the opening of a call. -/
theorem call?_of_suffix_quotedChars {cs x : List Char} (hx : x <:+ Param.quotedChars cs) :
    call? x = none := by
  rw [Option.eq_none_iff_forall_ne_some]
  rintro ⟨text, rest⟩ h
  obtain ⟨blanks, lit, rfl, hblanks, hlit, rfl⟩ := call?_eq_some_iff.1 h
  obtain ⟨date, rfl, hdate⟩ := exists_date_of_fits hlit
  obtain ⟨d, date, rfl, hd, -⟩ := Shape.fits_cons_iff.1 hdate
  -- the character in front of the literal is no quote, and behind the quote there is a digit
  obtain ⟨front, c, hfront⟩ : ∃ front c, opening ++ blanks = front ++ [c] := by
    rcases List.eq_nil_or_concat (opening ++ blanks) with hnil | ⟨front, c, hfront⟩
    · exact absurd (List.append_eq_nil_iff.1 hnil).1 opening_ne_nil
    · exact ⟨front, c, hfront.trans List.concat_eq_append⟩
  have hc : c ≠ '\'' := by
    rintro rfl
    exact notMem_opening_append hblanks (hfront ▸ List.mem_append_right front (by simp))
  have hsuffix : c :: '\'' :: d :: (date ++ ['\''] ++ rest) <:+ Param.quotedChars cs := by
    refine List.IsSuffix.trans ⟨front, ?_⟩ hx
    rw [hfront]
    simp
  rcases List.suffix_cons_iff.1 (quotedChars_eq cs ▸ hsuffix) with heq | hsuffix
  · exact hc (List.cons.inj heq).1
  · rw [eq_quote_of_suffix_doubled hc hsuffix] at hd
    exact absurd hd (by decide)

/-- **A quoted text stays as it is unless it quotes a date.** -/
theorem wrapDateChars_quotedChars_iff (cs : List Char) :
    wrapDateChars (Param.quotedChars cs) = Param.quotedChars cs ↔ ¬QuotesDate cs := by
  constructor
  · rintro heq ⟨lit, hlit, hinfix⟩
    have hlt := length_lt_length_wrapDateChars (fun x => call?_of_suffix_quotedChars) hlit
      ((infix_quotedChars_iff hlit cs).2 hinfix)
    rw [heq] at hlt
    exact absurd hlt (Nat.lt_irrefl _)
  · intro h
    refine wrapDateChars_eq_self fun lit hlit hinfix => h ⟨lit, hlit, ?_⟩
    exact (infix_quotedChars_iff hlit cs).1 hinfix

/-! ### Behind a quoted text -/

/-- A literal that goes on behind a quote, and does not end there, goes on with a digit. -/
theorem exists_digit_of_literal {front lit before behind : List Char} (hfront : '\'' ∉ front)
    (hlit : quotedDate.fits lit = true) (hne : behind ≠ [])
    (h : front ++ lit = before ++ '\'' :: behind) :
    ∃ d more, behind = d :: more ∧ isDecimalDigit d = true := by
  obtain ⟨date, rfl, hdate⟩ := exists_date_of_fits hlit
  obtain ⟨d, more, rfl, hd, -⟩ := Shape.fits_cons_iff.1 hdate
  have hquote : '\'' ∉ d :: more := notMem_of_fits_isoDate hdate
  -- the literal ends with the second of its quotes, so the other one is its first
  obtain hnil | ⟨behind, c, rfl⟩ := List.eq_nil_or_concat behind
  · exact absurd hnil hne
  have hcut : (front ++ '\'' :: (d :: more)) ++ ['\''] = (before ++ '\'' :: behind) ++ [c] := by
    simpa using h
  obtain ⟨hcut, -⟩ := List.append_inj' hcut rfl
  obtain ⟨-, -, rfl⟩ := (List.append_cons_inj_of_notMem hfront hquote).1 hcut
  exact ⟨d, more ++ [c], by simp, hd⟩

/-- Where no literal begins in a text with a quote at its end, none begins in front of what follows,
unless it is a digit. -/
theorem literalPiece?_append_of_quote {cs t : List Char} (hnone : literalPiece? cs = none)
    (hcs : ['\''] <:+ cs) (ht : ∀ c ∈ t.head?, isDecimalDigit c = false) :
    literalPiece? (cs ++ t) = none := by
  obtain ⟨before, rfl⟩ := hcs
  have habsurd : ∀ front lit rest, '\'' ∉ front → quotedDate.fits lit = true →
      (∀ more, literalPiece? (front ++ lit ++ more) ≠ none) →
      before ++ ['\''] ++ t = front ++ lit ++ rest → False := by
    intro front lit rest hfront hlit hsome heq
    rcases List.append_eq_append_iff.1 heq with ⟨beyond, htext, rfl⟩ | ⟨more, htext, -⟩
    · rcases beyond with _ | ⟨c, beyond⟩
      · exact hsome [] (by simpa [htext] using hnone)
      · rw [List.append_assoc] at htext
        obtain ⟨d, more, heq, hd⟩ :=
          exists_digit_of_literal hfront hlit (List.cons_ne_nil c beyond) htext
        obtain ⟨rfl, -⟩ := List.cons.inj heq
        rw [ht c rfl] at hd
        cases hd
    · exact hsome more (htext ▸ hnone)
  rw [Option.eq_none_iff_forall_ne_some]
  rintro ⟨p, rest⟩ h
  rcases cases_of_literalPiece? h with
    ⟨blanks, lit, hblanks, hlit, -, heq⟩ | ⟨lit, hlit, -, heq⟩
  · refine habsurd (opening ++ blanks) lit rest ?_ hlit (fun more => ?_) heq
    · exact notMem_opening_append hblanks
    · rw [literalPiece?_call hblanks hlit]
      exact Option.some_ne_none _
  · refine habsurd [] lit rest List.not_mem_nil hlit (fun more => ?_) heq
    rw [List.nil_append, literalPiece?_literal hlit]
    exact Option.some_ne_none _

/-- **A text with a quote at its end is wrapped by itself**, unless a digit follows. -/
theorem wrapDateChars_append_of_quote {cs t : List Char} (hcs : cs ≠ [] → ['\''] <:+ cs)
    (ht : ∀ c ∈ t.head?, isDecimalDigit c = false) :
    wrapDateChars (cs ++ t) = wrapDateChars cs ++ wrapDateChars t := by
  -- whatever is left of the text has the quote at its end too
  have hback : ∀ {front after : List Char}, (front ++ after ≠ [] → ['\''] <:+ front ++ after) →
      after ≠ [] → ['\''] <:+ after := by
    intro front after h hne
    have hquote := h fun hnil => hne (List.append_eq_nil_iff.1 hnil).2
    exact List.suffix_of_suffix_length_le hquote (List.suffix_append front after)
      (List.length_pos_iff.2 hne)
  induction cs using pieces_induction with
  | nil => simp
  | char c rest hnone ih =>
      have hwhole := literalPiece?_append_of_quote hnone (hcs (List.cons_ne_nil c rest)) ht
      rw [List.cons_append] at hwhole
      rw [wrapDateChars_of_none hnone, List.cons_append, wrapDateChars_of_none hwhole,
        ih (@hback [c] rest hcs), List.cons_append]
  | called blanks lit after hblanks hlit ih =>
      rw [List.append_assoc _ after, wrapDateChars_call hblanks hlit,
        wrapDateChars_call hblanks hlit, ih (hback hcs)]
      simp only [List.append_assoc]
  | bare lit after hlit ih =>
      rw [List.append_assoc, wrapDateChars_literal hlit, wrapDateChars_literal hlit,
        ih (hback hcs)]
      simp only [List.append_assoc]

/-- **A quoted text is wrapped by itself**, unless a digit follows. -/
theorem wrapDateChars_quotedChars_append (cs : List Char) {t : List Char}
    (ht : ∀ c ∈ t.head?, isDecimalDigit c = false) :
    wrapDateChars (Param.quotedChars cs ++ t) =
      wrapDateChars (Param.quotedChars cs) ++ wrapDateChars t := by
  refine wrapDateChars_append_of_quote (fun _ => ⟨'\'' :: doubled cs, ?_⟩) ht
  rw [quotedChars_eq, List.cons_append]

end Circulation
