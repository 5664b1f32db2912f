/-
**Date literals are wrapped once, and wrapping only inserts.**

Wrapped text is found to hold the same literals as the text it was made from, each of them wrapped
by now, so wrapping it again changes nothing.  What was inserted can be removed again, once it is
known which of the literals were bare.

The idea is that a literal can begin neither in what was inserted nor in front of it: a literal has
no `T` in it, and an insertion begins with one.

Main definitions:

* `SqlLiteral.rewritten` — which of the literals of a text are wrapped;
* `SqlLiteral.kept?` — a literal without its call, which must stand there;
* `SqlLiteral.unwrapped?` — a text without what was inserted around some of its literals.

Main results:

* `SqlLiteral.pieces_induction` — texts, literal by literal;
* `SqlLiteral.literalPiece?_cons_wrapDateChars` — **wrapping makes no new literals**;
* `wrapDateChars_wrapDateChars` — wrapping again changes nothing;
* `SqlLiteral.unwrapped?_wrapDateChars` — and what was inserted can be removed.
-/

import Circulation.Calendar.SqlLiteral
import Circulation.Proofs.Calendar.Spelling
import Circulation.Proofs.Text.Cut

set_option relaxedAutoImplicit false
set_option autoImplicit false

namespace Circulation

open Text

namespace SqlLiteral

/-! ### Literals and calls -/

theorem literal?_eq_some_iff {cs lit rest : List Char} :
    literal? cs = some (lit, rest) ↔ cs = lit ++ rest ∧ quotedDate.fits lit = true := by
  constructor
  · exact Shape.front?_eq_some
  · rintro ⟨rfl, hlit⟩
    exact Shape.front?_append hlit

/-- A quoted date begins with a quote. -/
theorem exists_of_fits_quotedDate {lit : List Char} (h : quotedDate.fits lit = true) :
    ∃ date, lit = '\'' :: date := by
  obtain ⟨c, date, rfl, hc, -⟩ := Shape.fits_cons_iff.1 h
  exact ⟨date, by rw [beq_iff_eq.1 hc]⟩

/-- A quoted date is a date between two quotes. -/
theorem exists_date_of_fits {lit : List Char} (h : quotedDate.fits lit = true) :
    ∃ date, lit = '\'' :: (date ++ ['\'']) ∧ Shape.isoDate.fits date = true := by
  obtain ⟨c, rest, rfl, hc, hrest⟩ := Shape.fits_cons_iff.1 h
  obtain ⟨date, back, rfl, hdate, hback⟩ := Shape.fits_append_iff.1 hrest
  obtain ⟨d, ds, rfl, hd, hds⟩ := Shape.fits_cons_iff.1 hback
  obtain rfl : ds = [] := List.length_eq_zero_iff.1 (Shape.length_of_fits hds)
  exact ⟨date, by rw [beq_iff_eq.1 hc, beq_iff_eq.1 hd], hdate⟩

theorem fits_quotedDate {date : List Char} (h : Shape.isoDate.fits date = true) :
    quotedDate.fits ('\'' :: (date ++ ['\''])) = true := by
  refine Shape.fits_cons_iff.2 ⟨_, _, rfl, rfl, ?_⟩
  exact Shape.fits_append_iff.2 ⟨date, ['\''], rfl, h, rfl⟩

/-- A date is made of digits and dashes. -/
theorem mem_of_fits_isoDate {date : List Char} (h : Shape.isoDate.fits date = true) {c : Char}
    (hc : c ∈ date) : c = '-' ∨ isDecimalDigit c = true := by
  obtain ⟨p, hp, hpc⟩ := Shape.exists_of_fits h hc
  simp only [Shape.isoDate, Shape.digits, List.mem_append, List.mem_cons, List.mem_replicate] at hp
  rcases hp with (⟨-, rfl⟩ | rfl | ⟨-, rfl⟩) | rfl | ⟨-, rfl⟩
  · exact Or.inr hpc
  · exact Or.inl (beq_iff_eq.1 hpc)
  · exact Or.inr hpc
  · exact Or.inl (beq_iff_eq.1 hpc)
  · exact Or.inr hpc

/-- No quote stands in a date. -/
theorem notMem_of_fits_isoDate {date : List Char} (h : Shape.isoDate.fits date = true) :
    '\'' ∉ date := by
  intro hmem
  rcases mem_of_fits_isoDate h hmem with heq | hdigit
  · exact absurd heq (by decide)
  · exact absurd hdigit (by decide)

/-- A quoted date is made of quotes, digits and dashes. -/
theorem mem_of_fits_quotedDate {lit : List Char} (h : quotedDate.fits lit = true) {c : Char}
    (hc : c ∈ lit) : c = '\'' ∨ c = '-' ∨ isDecimalDigit c = true := by
  obtain ⟨date, rfl, hdate⟩ := exists_date_of_fits h
  rcases List.mem_cons.1 hc with rfl | hc
  · exact Or.inl rfl
  · rcases List.mem_append.1 hc with hc | hc
    · exact Or.inr (mem_of_fits_isoDate hdate hc)
    · exact Or.inl (List.mem_singleton.1 hc)

/-- What holds a `T` is no part of a quoted date. -/
theorem notMem_of_fits_quotedDate {lit : List Char} (h : quotedDate.fits lit = true) :
    'T' ∉ lit := by
  intro hT
  rcases mem_of_fits_quotedDate h hT with hT | hT | hT
  · exact absurd hT (by decide)
  · exact absurd hT (by decide)
  · exact absurd hT (by decide)

/-- A call is its opening, blanks and a quoted date. -/
theorem call?_eq_some_iff {cs text rest : List Char} :
    call? cs = some (text, rest) ↔
      ∃ blanks lit, text = opening ++ blanks ++ lit ∧ (∀ b ∈ blanks, isBlank b = true) ∧
        quotedDate.fits lit = true ∧ cs = text ++ rest := by
  constructor
  · intro h
    have hcs := (call?_eq_some h).1
    unfold call? at h
    split at h
    · cases h
    · next after hafter =>
        obtain ⟨⟨lit, rest'⟩, hlit, heq⟩ := Option.map_eq_some_iff.1 h
        obtain ⟨rfl, rfl⟩ := Prod.mk.inj heq
        refine ⟨after.takeWhile isBlank, lit, rfl, fun b hb => ?_, (literal?_eq_some_iff.1 hlit).2,
          hcs⟩
        exact List.all_eq_true.1 List.all_takeWhile b hb
  · rintro ⟨blanks, lit, rfl, hblanks, hlit, rfl⟩
    have hsplit : opening ++ blanks ++ lit ++ rest = opening ++ (blanks ++ (lit ++ rest)) := by simp
    -- the blanks end where the quote begins
    obtain ⟨date, hdate⟩ := exists_of_fits_quotedDate hlit
    have hquote : isBlank '\'' = false := by decide
    have htake : (blanks ++ (lit ++ rest)).takeWhile isBlank = blanks := by
      rw [List.takeWhile_append_of_pos hblanks, hdate, List.cons_append,
        List.takeWhile_cons_of_neg (by simp [hquote]), List.append_nil]
    have hdrop : (blanks ++ (lit ++ rest)).dropWhile isBlank = lit ++ rest := by
      rw [List.dropWhile_append_of_pos hblanks, hdate, List.cons_append,
        List.dropWhile_cons_of_neg (by simp [hquote])]
    unfold call?
    rw [hsplit, isPrefixOf?_append]
    simp only [htake, hdrop, literal?_eq_some_iff.2 ⟨rfl, hlit⟩, Option.map_some]

/-- No quote stands in front of the literal of a call. -/
theorem notMem_opening_append {blanks : List Char} (h : ∀ b ∈ blanks, isBlank b = true) :
    '\'' ∉ opening ++ blanks := by
  intro hmem
  rcases List.mem_append.1 hmem with hmem | hmem
  · exact absurd hmem (by decide)
  · exact absurd (h _ hmem) (by decide)

theorem literalPiece?_eq_none_iff {cs : List Char} :
    literalPiece? cs = none ↔ call? cs = none ∧ literal? cs = none := by
  unfold literalPiece?
  cases call? cs with
  | none => simp
  | some p => simp

/-- A call and the rest. -/
theorem literalPiece?_call {blanks lit : List Char} (hblanks : ∀ b ∈ blanks, isBlank b = true)
    (hlit : quotedDate.fits lit = true) (rest : List Char) :
    literalPiece? (opening ++ blanks ++ lit ++ rest) =
      some (.called (opening ++ blanks ++ lit), rest) := by
  have hcall : call? (opening ++ blanks ++ lit ++ rest) =
      some (opening ++ blanks ++ lit, rest) :=
    call?_eq_some_iff.2 ⟨blanks, lit, rfl, hblanks, hlit, rfl⟩
  rw [literalPiece?, hcall]

/-- What begins a call. -/
theorem call?_eq_none {c : Char} (hc : c ≠ 'T') (cs : List Char) : call? (c :: cs) = none := by
  rw [Option.eq_none_iff_forall_ne_some]
  rintro ⟨text, rest⟩ h
  obtain ⟨blanks, lit, rfl, -, -, heq⟩ := call?_eq_some_iff.1 h
  exact hc (List.cons.inj heq).1

/-- A bare literal and the rest. -/
theorem literalPiece?_literal {lit : List Char} (hlit : quotedDate.fits lit = true)
    (rest : List Char) : literalPiece? (lit ++ rest) = some (.bare lit, rest) := by
  obtain ⟨date, hdate⟩ := exists_of_fits_quotedDate hlit
  have hcall : call? (lit ++ rest) = none := by
    rw [hdate]
    exact call?_eq_none (by decide) _
  rw [literalPiece?, hcall, literal?_eq_some_iff.2 ⟨rfl, hlit⟩]
  rfl

/-- Without a quote in front there is a literal only behind a call. -/
theorem literalPiece?_of_call? {c : Char} {cs : List Char} (hquote : c ≠ '\'')
    (hcall : call? (c :: cs) = none) : literalPiece? (c :: cs) = none := by
  refine literalPiece?_eq_none_iff.2 ⟨hcall, ?_⟩
  rw [Option.eq_none_iff_forall_ne_some]
  rintro ⟨lit, rest⟩ h
  obtain ⟨heq, hlit⟩ := literal?_eq_some_iff.1 h
  obtain ⟨date, rfl⟩ := exists_of_fits_quotedDate hlit
  exact hquote (List.cons.inj heq).1

/-- No literal begins with another character than a quote or the first one of a call. -/
theorem literalPiece?_of_ne {c : Char} (hT : c ≠ 'T') (hquote : c ≠ '\'') (cs : List Char) :
    literalPiece? (c :: cs) = none :=
  literalPiece?_of_call? hquote (call?_eq_none hT cs)

/-- No literal begins with a quote behind which there is no digit. -/
theorem literalPiece?_quote {c : Char} (hc : isDecimalDigit c = false) (cs : List Char) :
    literalPiece? ('\'' :: c :: cs) = none := by
  refine literalPiece?_eq_none_iff.2 ⟨call?_eq_none (by decide) _, ?_⟩
  rw [Option.eq_none_iff_forall_ne_some]
  rintro ⟨lit, rest⟩ h
  obtain ⟨heq, hlit⟩ := literal?_eq_some_iff.1 h
  obtain ⟨q, date, rfl, -, hdate⟩ := Shape.fits_cons_iff.1 hlit
  obtain ⟨d, date, rfl, hd, -⟩ := Shape.fits_cons_iff.1 hdate
  obtain ⟨-, htail⟩ := List.cons.inj heq
  obtain ⟨rfl, -⟩ := List.cons.inj htail
  rw [hc] at hd
  cases hd

/-- A piece is a call or a bare literal. -/
theorem cases_of_literalPiece? {cs rest : List Char} {p : Piece}
    (h : literalPiece? cs = some (p, rest)) :
    (∃ blanks lit, (∀ b ∈ blanks, isBlank b = true) ∧ quotedDate.fits lit = true ∧
        p = .called (opening ++ blanks ++ lit) ∧ cs = opening ++ blanks ++ lit ++ rest) ∨
      ∃ lit, quotedDate.fits lit = true ∧ p = .bare lit ∧ cs = lit ++ rest := by
  unfold literalPiece? at h
  split at h
  · next text rest' hcall =>
      obtain ⟨rfl, rfl⟩ := Prod.mk.inj (Option.some.inj h)
      obtain ⟨blanks, lit, rfl, hblanks, hlit, heq⟩ := call?_eq_some_iff.1 hcall
      exact Or.inl ⟨blanks, lit, hblanks, hlit, rfl, heq⟩
  · obtain ⟨⟨lit, rest'⟩, hcut, heq⟩ := Option.map_eq_some_iff.1 h
    obtain ⟨rfl, rfl⟩ := Prod.mk.inj heq
    obtain ⟨hcs, hlit⟩ := literal?_eq_some_iff.1 hcut
    exact Or.inr ⟨lit, hlit, rfl, hcs⟩

/-! ### Texts, literal by literal -/

/-- **Texts, literal by literal**: at every place there is a wrapped literal, a bare one, or a
character at which none begins. -/
@[elab_as_elim]
theorem pieces_induction {motive : List Char → Prop} (nil : motive [])
    (char : ∀ c rest, literalPiece? (c :: rest) = none → motive rest → motive (c :: rest))
    (called : ∀ blanks lit after, (∀ b ∈ blanks, isBlank b = true) → quotedDate.fits lit = true →
      motive after → motive (opening ++ blanks ++ lit ++ after))
    (bare : ∀ lit after, quotedDate.fits lit = true → motive after → motive (lit ++ after))
    (cs : List Char) : motive cs := by
  induction hn : cs.length using Nat.strongRecOn generalizing cs with
  | ind n ih =>
      cases cs with
      | nil => exact nil
      | cons c rest =>
          cases h : literalPiece? (c :: rest) with
          | none => exact char c rest h (ih rest.length (by simp [← hn]) rest rfl)
          | some q =>
              obtain ⟨p, after⟩ := q
              have hlt := length_lt_of_literalPiece? h
              have hafter := ih after.length (by omega) after rfl
              rcases cases_of_literalPiece? h with
                ⟨blanks, lit, hblanks, hlit, -, heq⟩ | ⟨lit, hlit, -, heq⟩
              · rw [heq]
                exact called blanks lit after hblanks hlit hafter
              · rw [heq]
                exact bare lit after hlit hafter

@[simp] theorem wrapDateChars_nil : wrapDateChars [] = [] := by simp [wrapDateChars]

theorem wrapDateChars_of_none {c : Char} {rest : List Char}
    (h : literalPiece? (c :: rest) = none) :
    wrapDateChars (c :: rest) = c :: wrapDateChars rest := by
  rw [wrapDateChars, pieces_of_none h]
  rfl

theorem wrapDateChars_call {blanks lit : List Char} (hblanks : ∀ b ∈ blanks, isBlank b = true)
    (hlit : quotedDate.fits lit = true) (after : List Char) :
    wrapDateChars (opening ++ blanks ++ lit ++ after) =
      opening ++ blanks ++ lit ++ wrapDateChars after := by
  rw [wrapDateChars, pieces_of_some (literalPiece?_call hblanks hlit after)]
  rfl

theorem wrapDateChars_literal {lit : List Char} (hlit : quotedDate.fits lit = true)
    (after : List Char) :
    wrapDateChars (lit ++ after) = opening ++ lit ++ closing ++ wrapDateChars after := by
  rw [wrapDateChars, pieces_of_some (literalPiece?_literal hlit after)]
  rfl

/-- What follows a wrapped literal holds no literal, whatever stands behind it. -/
theorem wrapDateChars_closing (cs : List Char) :
    wrapDateChars (closing ++ cs) = closing ++ wrapDateChars cs := by
  have hplain : ∀ {c : Char} {cs : List Char}, c ≠ 'T' → c ≠ '\'' →
      wrapDateChars (c :: cs) = c :: wrapDateChars cs :=
    fun hT hquote => wrapDateChars_of_none (literalPiece?_of_ne hT hquote _)
  have hquote : ∀ {c : Char} {cs : List Char}, isDecimalDigit c = false →
      wrapDateChars ('\'' :: c :: cs) = '\'' :: wrapDateChars (c :: cs) :=
    fun hc => wrapDateChars_of_none (literalPiece?_quote hc _)
  have hclosing : closing ++ cs = ',' :: ' ' :: '\'' :: 'Y' :: 'Y' :: 'Y' :: 'Y' :: '-' :: 'M' ::
      'M' :: '-' :: 'D' :: 'D' :: '\'' :: ')' :: cs := rfl
  rw [hclosing]
  simp (disch := decide) only [hplain, hquote]
  rfl

/-- Where no literal occurs nothing is wrapped. -/
theorem wrapDateChars_eq_self {cs : List Char}
    (h : ∀ lit, quotedDate.fits lit = true → ¬lit <:+: cs) : wrapDateChars cs = cs := by
  induction cs using pieces_induction with
  | nil => simp
  | char c rest hnone ih =>
      rw [wrapDateChars_of_none hnone, ih fun lit hlit hrest => h lit hlit (List.infix_cons hrest)]
  | called blanks lit after hblanks hlit ih => exact absurd ⟨_, after, rfl⟩ (h lit hlit)
  | bare lit after hlit ih => exact absurd ⟨[], after, rfl⟩ (h lit hlit)

/-- Wrapping makes no text shorter. -/
theorem length_le_length_wrapDateChars (cs : List Char) :
    cs.length ≤ (wrapDateChars cs).length := by
  induction cs using pieces_induction with
  | nil => exact Nat.zero_le _
  | char c rest hnone ih =>
      rw [wrapDateChars_of_none hnone]
      exact Nat.succ_le_succ ih
  | called blanks lit after hblanks hlit ih =>
      rw [wrapDateChars_call hblanks hlit]
      simp only [List.length_append]
      omega
  | bare lit after hlit ih =>
      rw [wrapDateChars_literal hlit]
      simp only [List.length_append]
      omega

/-- A literal in a text without calls is wrapped, which makes the text longer. -/
theorem length_lt_length_wrapDateChars {cs lit : List Char} (hcall : ∀ x, x <:+ cs → call? x = none)
    (hlit : quotedDate.fits lit = true) (h : lit <:+: cs) :
    cs.length < (wrapDateChars cs).length := by
  induction cs using pieces_induction with
  | nil =>
      rw [List.infix_nil.1 h] at hlit
      cases hlit
  | char c rest hnone ih =>
      rw [wrapDateChars_of_none hnone]
      rcases List.infix_cons_iff.1 h with ⟨after, hafter⟩ | hrest
      · rw [← hafter, literalPiece?_literal hlit] at hnone
        cases hnone
      · exact Nat.succ_lt_succ (ih (fun x hx => hcall x (hx.trans (List.suffix_cons c rest))) hrest)
  | called blanks lit' after hblanks hlit' ih =>
      have hnone := hcall _ List.suffix_rfl
      rw [call?_eq_some_iff.2 ⟨blanks, lit', rfl, hblanks, hlit', rfl⟩] at hnone
      cases hnone
  | bare lit' after hlit' ih =>
      have hle := length_le_length_wrapDateChars after
      have hopening : opening.length = 8 := rfl
      rw [wrapDateChars_literal hlit']
      simp only [List.length_append]
      omega

/-! ### Wrapped texts -/

/-- What begins a wrapped text begins the text itself, unless a call begins there. -/
theorem exists_of_wrapDateChars_eq_cons {cs w : List Char} {c : Char}
    (h : wrapDateChars cs = c :: w) :
    (∃ rest, cs = c :: rest ∧ wrapDateChars rest = w) ∨ ∃ t, c :: w = opening ++ t := by
  induction cs using pieces_induction with
  | nil =>
      rw [wrapDateChars_nil] at h
      cases h
  | char d rest hnone _ =>
      rw [wrapDateChars_of_none hnone] at h
      obtain ⟨rfl, rfl⟩ := List.cons.inj h
      exact Or.inl ⟨rest, rfl, rfl⟩
  | called blanks lit after hblanks hlit _ =>
      rw [wrapDateChars_call hblanks hlit] at h
      exact Or.inr ⟨blanks ++ lit ++ wrapDateChars after, by simp [← h]⟩
  | bare lit after hlit _ =>
      rw [wrapDateChars_literal hlit] at h
      exact Or.inr ⟨lit ++ closing ++ wrapDateChars after, by simp [← h]⟩

/-- What begins a wrapped text and holds no `T` begins the text itself. -/
theorem exists_of_wrapDateChars_eq_append {cs a w : List Char}
    (h : wrapDateChars cs = a ++ w) (ha : 'T' ∉ a) :
    ∃ rest, cs = a ++ rest ∧ wrapDateChars rest = w := by
  induction a generalizing cs with
  | nil => exact ⟨cs, rfl, h⟩
  | cons c a ih =>
      rw [List.mem_cons, not_or] at ha
      rcases exists_of_wrapDateChars_eq_cons h with ⟨rest, rfl, hrest⟩ | ⟨t, ht⟩
      · obtain ⟨rest', rfl, hw⟩ := ih hrest ha.2
        exact ⟨rest', rfl, hw⟩
      · exact absurd (List.cons.inj ht).1.symm ha.1

/-- No wrapped text begins with a bare literal. -/
theorem literal?_wrapDateChars (cs : List Char) : literal? (wrapDateChars cs) = none := by
  rw [Option.eq_none_iff_forall_ne_some]
  rintro ⟨lit, w⟩ h
  obtain ⟨heq, hlit⟩ := literal?_eq_some_iff.1 h
  -- the literal would stand in the text itself, and there it is wrapped
  obtain ⟨rest, rfl, -⟩ := exists_of_wrapDateChars_eq_append heq (notMem_of_fits_quotedDate hlit)
  obtain ⟨date, rfl⟩ := exists_of_fits_quotedDate hlit
  rw [wrapDateChars_literal hlit] at heq
  exact absurd (List.cons.inj heq).1 (by decide)

/-- The opening of a call is not taken apart: where `TE` begins a wrapped text it begins the text
itself. -/
theorem exists_of_wrapDateChars_eq_call {cs w : List Char}
    (h : wrapDateChars cs = 'T' :: 'E' :: w) :
    ∃ rest, cs = 'T' :: rest ∧ wrapDateChars rest = 'E' :: w := by
  rcases exists_of_wrapDateChars_eq_cons h with hrest | ⟨t, ht⟩
  · exact hrest
  · -- behind the first `T` of an opening there is another letter
    exact absurd (List.cons.inj (List.cons.inj ht).2).1 (by decide)

/-- **Wrapping makes no new literals**: where none begins in a text, none begins when what follows
is wrapped. -/
theorem literalPiece?_cons_wrapDateChars {c : Char} {rest : List Char}
    (h : literalPiece? (c :: rest) = none) : literalPiece? (c :: wrapDateChars rest) = none := by
  obtain ⟨hcall, hliteral⟩ := literalPiece?_eq_none_iff.1 h
  refine literalPiece?_eq_none_iff.2 ⟨?_, ?_⟩
  · rw [Option.eq_none_iff_forall_ne_some]
    rintro ⟨text, w⟩ hsome
    obtain ⟨blanks, lit, rfl, hblanks, hlit, heq⟩ := call?_eq_some_iff.1 hsome
    have hopening : c :: wrapDateChars rest =
        'T' :: (['O', '_', 'D', 'A'] ++ 'T' :: 'E' :: ('(' :: blanks ++ (lit ++ w))) := by
      have hchars : opening = ['T', 'O', '_', 'D', 'A', 'T', 'E', '('] := rfl
      rw [heq, hchars]
      simp
    obtain ⟨rfl, hrest⟩ := List.cons.inj hopening
    -- the opening and the blanks are characters of the text itself
    obtain ⟨rest₁, rfl, h₁⟩ :=
      exists_of_wrapDateChars_eq_append (a := ['O', '_', 'D', 'A']) hrest (by decide)
    obtain ⟨rest₂, rfl, h₂⟩ := exists_of_wrapDateChars_eq_call h₁
    have hblank : 'T' ∉ 'E' :: '(' :: blanks := by
      intro hmem
      simp only [List.mem_cons] at hmem
      rcases hmem with hmem | hmem | hmem
      · exact absurd hmem (by decide)
      · exact absurd hmem (by decide)
      · exact absurd (hblanks 'T' hmem) (by decide)
    obtain ⟨rest₃, -, h₃⟩ :=
      exists_of_wrapDateChars_eq_append (a := 'E' :: '(' :: blanks) h₂ hblank
    -- and a literal behind them would have been wrapped
    have hnone := literal?_wrapDateChars rest₃
    rw [h₃, literal?_eq_some_iff.2 ⟨rfl, hlit⟩] at hnone
    cases hnone
  · rw [Option.eq_none_iff_forall_ne_some]
    rintro ⟨lit, w⟩ hsome
    obtain ⟨heq, hlit⟩ := literal?_eq_some_iff.1 hsome
    have hT := notMem_of_fits_quotedDate hlit
    obtain ⟨date, rfl⟩ := exists_of_fits_quotedDate hlit
    obtain ⟨rfl, hrest⟩ := List.cons.inj heq
    obtain ⟨rest', rfl, -⟩ :=
      exists_of_wrapDateChars_eq_append hrest fun hmem => hT (List.mem_cons_of_mem _ hmem)
    have hsome' : literal? ('\'' :: (date ++ rest')) = some ('\'' :: date, rest') :=
      literal?_eq_some_iff.2 ⟨rfl, hlit⟩
    rw [hsome'] at hliteral
    cases hliteral

/-- **Wrapping again changes nothing.** -/
theorem wrapDateChars_wrapDateChars (cs : List Char) :
    wrapDateChars (wrapDateChars cs) = wrapDateChars cs := by
  induction cs using pieces_induction with
  | nil => simp
  | char c rest hnone ih =>
      rw [wrapDateChars_of_none hnone,
        wrapDateChars_of_none (literalPiece?_cons_wrapDateChars hnone), ih]
  | called blanks lit after hblanks hlit ih =>
      rw [wrapDateChars_call hblanks hlit, wrapDateChars_call hblanks hlit, ih]
  | bare lit after hlit ih =>
      -- the literal stands behind a call by now, with no blank between them
      have hcall := @wrapDateChars_call [] lit (by simp) hlit
        (closing ++ wrapDateChars after)
      rw [List.append_nil] at hcall
      rw [wrapDateChars_literal hlit, List.append_assoc (opening ++ lit), hcall,
        wrapDateChars_closing, ih]

/-! ### Undoing -/

/-- Whether a piece is a literal that is wrapped, if it is a literal at all. -/
def Piece.rewritten? : Piece → Option Bool
  | .char _ => none
  | .bare _ => some true
  | .called _ => some false

/-- Which of the literals of a text are wrapped, in their order. -/
def rewritten (cs : List Char) : List Bool := (pieces cs).filterMap Piece.rewritten?

/-- What is kept of a literal, and the text behind it.  If the call is to be removed, the opening must
stand in front of the literal and the closing behind it. -/
def kept? (remove : Bool) (p : Piece) (after : List Char) : Option (List Char × List Char) :=
  if remove then
    (opening.isPrefixOf? p.source).bind fun literal =>
      (closing.isPrefixOf? after).map fun behind => (literal, behind)
  else some (p.source, after)

@[simp] theorem kept?_false (p : Piece) (after : List Char) :
    kept? false p after = some (p.source, after) := rfl

/-- A call loses its opening, and the text behind it the closing. -/
theorem kept?_true (literal behind : List Char) :
    kept? true (.called (opening ++ literal)) (closing ++ behind) = some (literal, behind) := by
  rw [kept?, if_pos rfl, Piece.source_called, isPrefixOf?_append, isPrefixOf?_append]
  rfl

theorem length_le_of_kept? {remove : Bool} {p : Piece} {after text behind : List Char}
    (h : kept? remove p after = some (text, behind)) : behind.length ≤ after.length := by
  unfold kept? at h
  split at h
  · obtain ⟨literal, -, hclosing⟩ := Option.bind_eq_some_iff.1 h
    obtain ⟨behind', hbehind, heq⟩ := Option.map_eq_some_iff.1 hclosing
    obtain ⟨-, rfl⟩ := Prod.mk.inj heq
    rw [← append_of_isPrefixOf?_eq_some hbehind, List.length_append]
    omega
  · obtain ⟨-, rfl⟩ := Prod.mk.inj (Option.some.inj h)
    exact le_rfl

/-- A text without the call around some of its literals: for each of them in turn it is told whether
the call is removed.  There is no such text if a call does not stand where it is to be removed. -/
def unwrapped? (flags : List Bool) (cs : List Char) : Option (List Char) :=
  match cs with
  | [] => some []
  | c :: rest =>
      match _h : literalPiece? (c :: rest) with
      | none => (unwrapped? flags rest).map (c :: ·)
      | some (p, after) =>
          match _hkept : kept? (flags.headD false) p after with
          | none => none
          | some (text, behind) => (unwrapped? flags.tail behind).map (text ++ ·)
termination_by cs.length
decreasing_by
  · simp
  · exact (length_le_of_kept? _hkept).trans_lt (length_lt_of_literalPiece? _h)

@[simp] theorem unwrapped?_nil (flags : List Bool) : unwrapped? flags [] = some [] := by
  rw [unwrapped?]

theorem unwrapped?_of_none {c : Char} {rest : List Char} (h : literalPiece? (c :: rest) = none)
    (flags : List Bool) :
    unwrapped? flags (c :: rest) = (unwrapped? flags rest).map (c :: ·) := by
  rw [unwrapped?]
  split
  · rfl
  · next h' =>
      rw [h] at h'
      cases h'

theorem unwrapped?_of_some {cs after text behind : List Char} {p : Piece} {flag : Bool}
    (h : literalPiece? cs = some (p, after)) (hkept : kept? flag p after = some (text, behind))
    (flags : List Bool) :
    unwrapped? (flag :: flags) cs = (unwrapped? flags behind).map (text ++ ·) := by
  cases cs with
  | nil => cases h
  | cons c rest =>
      rw [unwrapped?]
      split
      · next h' =>
          rw [h] at h'
          cases h'
      · next p' after' h' =>
          rw [h] at h'
          obtain ⟨rfl, rfl⟩ := Prod.mk.inj (Option.some.inj h')
          simp only [List.headD_cons, List.tail_cons]
          split
          · next hnone =>
              rw [hkept] at hnone
              cases hnone
          · next hsome =>
              rw [hkept] at hsome
              obtain ⟨rfl, rfl⟩ := Prod.mk.inj (Option.some.inj hsome)
              rfl

/-- **What was inserted can be removed again**, at the literals that were bare. -/
theorem unwrapped?_wrapDateChars (cs : List Char) :
    unwrapped? (rewritten cs) (wrapDateChars cs) = some cs := by
  induction cs using pieces_induction with
  | nil => simp
  | char c rest hnone ih =>
      have hflags : rewritten (c :: rest) = rewritten rest := by
        rw [rewritten, pieces_of_none hnone]
        rfl
      rw [hflags, wrapDateChars_of_none hnone,
        unwrapped?_of_none (literalPiece?_cons_wrapDateChars hnone), ih, Option.map_some]
  | called blanks lit after hblanks hlit ih =>
      have hflags : rewritten (opening ++ blanks ++ lit ++ after) = false :: rewritten after := by
        rw [rewritten, pieces_of_some (literalPiece?_call hblanks hlit after)]
        rfl
      rw [hflags, wrapDateChars_call hblanks hlit,
        unwrapped?_of_some (literalPiece?_call hblanks hlit (wrapDateChars after)) (kept?_false _ _),
        ih, Option.map_some, Piece.source_called]
  | bare lit after hlit ih =>
      have hflags : rewritten (lit ++ after) = true :: rewritten after := by
        rw [rewritten, pieces_of_some (literalPiece?_literal hlit after)]
        rfl
      have hpiece := @literalPiece?_call [] lit (by simp) hlit
        (closing ++ wrapDateChars after)
      rw [List.append_nil] at hpiece
      rw [hflags, wrapDateChars_literal hlit, List.append_assoc (opening ++ lit),
        unwrapped?_of_some hpiece (kept?_true lit _), ih, Option.map_some]

end SqlLiteral

/-- **Date literals are wrapped once, and wrapping only inserts**: wrapping again changes nothing,
and without the call around each of the literals that were bare the text is what it was. -/
theorem wrapDates_once (sql : String) :
    wrapDates (wrapDates sql) = wrapDates sql ∧
      SqlLiteral.unwrapped? (SqlLiteral.rewritten sql.toList) (wrapDates sql).toList =
        some sql.toList := by
  have hchars : (wrapDates sql).toList = wrapDateChars sql.toList := String.toList_ofList
  refine ⟨?_, ?_⟩
  · rw [wrapDates, hchars, SqlLiteral.wrapDateChars_wrapDateChars]
    rfl
  · rw [hchars]
    exact SqlLiteral.unwrapped?_wrapDateChars sql.toList

end Circulation
