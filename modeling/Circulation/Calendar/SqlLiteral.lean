/-
**Date literals inside SQL text.**

For display, every quoted `'YYYY-MM-DD'` is wrapped in `TO_DATE(.., 'YYYY-MM-DD')`.  A literal that
stands right behind `TO_DATE(` is wrapped already and stays as it is.  The text is cut into pieces
from the left to the right, and only then written again, so that what was inserted is not looked at.

Main definitions:

* `Piece` — a character, a bare literal, or a literal with its opening `TO_DATE(`;
* `pieces` — the pieces of a text;
* `wrapDates` — the text with every bare literal wrapped.
-/

import Circulation.Text.Blank
import Circulation.Text.Cut
import Circulation.Text.Shape

set_option relaxedAutoImplicit false
set_option autoImplicit false

namespace Circulation

namespace SqlLiteral

open Text

/-! ### Pieces -/

/-- A piece of SQL text, as far as date literals are concerned. -/
inductive Piece where
  | char (c : Char)
  /-- A quoted date. -/
  | bare (literal : List Char)
  /-- A quoted date with the opening of its call in front. -/
  | called (text : List Char)
deriving DecidableEq

/-- The text of a piece. -/
def Piece.source : Piece → List Char
  | .char c => [c]
  | .bare literal => literal
  | .called text => text

/-- The opening of a call. -/
def opening : List Char := "TO_DATE(".toList

/-- What follows a wrapped literal. -/
def closing : List Char := ", 'YYYY-MM-DD')".toList

/-- A piece with its literal wrapped. -/
def Piece.wrapped : Piece → List Char
  | .bare literal => opening ++ literal ++ closing
  | p => p.source

@[simp] theorem Piece.source_called (cs : List Char) : (Piece.called cs).source = cs := rfl

theorem opening_ne_nil : opening ≠ [] := by
  intro h
  exact absurd (congrArg List.length h) (by decide)

/-! ### Cutting -/

/-- The shape of a quoted date. -/
def quotedDate : Shape := Shape.exactly '\'' :: Shape.isoDate ++ [Shape.exactly '\'']

/-- A quoted date at the front, and the rest. -/
def literal? (cs : List Char) : Option (List Char × List Char) := quotedDate.front? cs

/-- An opening call and a quoted date at the front, and the rest. -/
def call? (cs : List Char) : Option (List Char × List Char) :=
  match opening.isPrefixOf? cs with
  | none => none
  | some after =>
      (literal? (after.dropWhile isBlank)).map fun p =>
        (opening ++ after.takeWhile isBlank ++ p.1, p.2)

/-- A literal at the front, with its call if it has one, and the rest. -/
def literalPiece? (cs : List Char) : Option (Piece × List Char) :=
  match call? cs with
  | some (text, rest) => some (.called text, rest)
  | none => (literal? cs).map fun p => (.bare p.1, p.2)

/-- A literal and the rest make up the text. -/
theorem literal?_eq_some {cs lit rest : List Char} (h : literal? cs = some (lit, rest)) :
    cs = lit ++ rest ∧ lit ≠ [] := by
  refine ⟨(Shape.front?_eq_some h).1, ?_⟩
  rintro rfl
  exact absurd (Shape.front?_eq_some h).2 (by decide)

/-- A call and the rest make up the text. -/
theorem call?_eq_some {cs text rest : List Char} (h : call? cs = some (text, rest)) :
    cs = text ++ rest ∧ text ≠ [] := by
  unfold call? at h
  split at h
  · simp at h
  · next after hafter =>
      obtain ⟨⟨lit, rest'⟩, hlit, hp⟩ := Option.map_eq_some_iff.1 h
      have hcut := (literal?_eq_some hlit).1
      rw [← (Prod.mk.inj hp).1, ← (Prod.mk.inj hp).2]
      refine ⟨?_, fun hnil => opening_ne_nil (List.append_eq_nil_iff.1
        (List.append_eq_nil_iff.1 hnil).1).1⟩
      rw [← append_of_isPrefixOf?_eq_some hafter, List.append_assoc, List.append_assoc,
        ← hcut, List.takeWhile_append_dropWhile]

/-- A piece and the rest make up the text, and the piece is not empty. -/
theorem literalPiece?_eq_some {cs rest : List Char} {p : Piece}
    (h : literalPiece? cs = some (p, rest)) : cs = p.source ++ rest ∧ p.source ≠ [] := by
  unfold literalPiece? at h
  split at h
  · next text rest' hcall =>
      simp only [Option.some.injEq, Prod.mk.injEq] at h
      obtain ⟨rfl, rfl⟩ := h
      exact call?_eq_some hcall
  · obtain ⟨⟨lit, rest'⟩, hlit, hp⟩ := Option.map_eq_some_iff.1 h
    rw [← (Prod.mk.inj hp).1, ← (Prod.mk.inj hp).2]
    exact literal?_eq_some hlit

theorem length_lt_of_literalPiece? {cs rest : List Char} {p : Piece}
    (h : literalPiece? cs = some (p, rest)) : rest.length < cs.length := by
  have hp := literalPiece?_eq_some h
  rw [hp.1, List.length_append]
  have := List.length_pos_iff.2 hp.2
  omega

/-- The pieces of a text: literals as far left as they go, single characters between them. -/
def pieces (cs : List Char) : List Piece :=
  match cs with
  | [] => []
  | c :: rest =>
      match _h : literalPiece? (c :: rest) with
      | some (p, after) => p :: pieces after
      | none => .char c :: pieces rest
termination_by cs.length
decreasing_by
  · exact length_lt_of_literalPiece? _h
  · simp

@[simp] theorem pieces_nil : pieces [] = [] := by rw [pieces]

theorem pieces_of_some {cs after : List Char} {p : Piece}
    (h : literalPiece? cs = some (p, after)) : pieces cs = p :: pieces after := by
  cases cs with
  | nil =>
      have hp := literalPiece?_eq_some h
      exact absurd (List.append_eq_nil_iff.1 hp.1.symm).1 hp.2
  | cons c rest =>
      rw [pieces]
      split
      · next p' after' h' =>
          rw [h] at h'
          simp only [Option.some.injEq, Prod.mk.injEq] at h'
          rw [h'.1, h'.2]
      · next h' => simp [h] at h'

theorem pieces_of_none {c : Char} {rest : List Char} (h : literalPiece? (c :: rest) = none) :
    pieces (c :: rest) = .char c :: pieces rest := by
  rw [pieces]
  split
  · next h' => simp [h] at h'
  · rfl

end SqlLiteral

/-! ### Wrapping -/

/-- The characters of a text with every bare date literal wrapped. -/
def wrapDateChars (cs : List Char) : List Char :=
  (SqlLiteral.pieces cs).flatMap SqlLiteral.Piece.wrapped

/-- A text with every bare date literal wrapped. -/
def wrapDates (sql : String) : String := String.ofList (wrapDateChars sql.toList)

end Circulation
