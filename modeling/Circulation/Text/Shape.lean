/-
**Shapes: texts of a fixed length, place by place.**

A shape gives one class of characters for each place of a text.

Main definitions:

* `Shape` — a class for each place;
* `Shape.fits` — whether a text has a shape;
* `Shape.front?` — the part of a text that has a shape at its front, and the rest.

Main results:

* `Shape.front?_eq_some` — such a part and the rest make up the text.
-/

import Circulation.Text.Numeral

set_option relaxedAutoImplicit false
set_option autoImplicit false

namespace Circulation.Text

/-- One class of characters for each place of a text. -/
abbrev Shape := List (Char → Bool)

namespace Shape

/-- The class of one character. -/
def exactly (c : Char) : Char → Bool := fun d => d == c

/-- So many decimal digits of any script. -/
def digits (n : Nat) : Shape := List.replicate n isDecimalDigit

/-- Four digits, two digits and two digits, with dashes between them. -/
def isoDate : Shape := digits 4 ++ exactly '-' :: digits 2 ++ exactly '-' :: digits 2

/-- Whether a text has a shape. -/
def fits : Shape → List Char → Bool
  | [], [] => true
  | p :: ps, c :: cs => p c && fits ps cs
  | _, _ => false

@[simp] theorem fits_nil : fits [] [] = true := rfl

@[simp] theorem fits_nil_cons (c : Char) (cs : List Char) : fits [] (c :: cs) = false := rfl

@[simp] theorem fits_cons_nil (p : Char → Bool) (ps : Shape) : fits (p :: ps) [] = false := rfl

@[simp] theorem fits_cons_cons (p : Char → Bool) (ps : Shape) (c : Char) (cs : List Char) :
    fits (p :: ps) (c :: cs) = (p c && fits ps cs) := rfl

/-- A text with a shape has its length. -/
theorem length_of_fits {s : Shape} {cs : List Char} (h : s.fits cs = true) :
    cs.length = s.length := by
  induction s generalizing cs with
  | nil => cases cs <;> simp_all
  | cons p ps ih =>
      cases cs with
      | nil => simp at h
      | cons c cs =>
          simp only [fits_cons_cons, Bool.and_eq_true] at h
          simp [ih h.2]

/-- The part of a text that has a shape at its front, and the rest. -/
def front? (s : Shape) (cs : List Char) : Option (List Char × List Char) :=
  if s.fits (cs.take s.length) then some (cs.take s.length, cs.drop s.length) else none

/-- The part with the shape and the rest make up the text. -/
theorem front?_eq_some {s : Shape} {cs a b : List Char} (h : s.front? cs = some (a, b)) :
    cs = a ++ b ∧ s.fits a = true := by
  simp only [front?] at h
  split at h
  · next hfits =>
      simp only [Option.some.injEq, Prod.mk.injEq] at h
      obtain ⟨rfl, rfl⟩ := h
      exact ⟨(List.take_append_drop _ _).symm, hfits⟩
  · simp at h

/-- A text that begins with the shape is cut behind it. -/
theorem front?_append {s : Shape} {a b : List Char} (h : s.fits a = true) :
    s.front? (a ++ b) = some (a, b) := by
  have hlen := length_of_fits h
  simp [front?, ← hlen, h]

end Shape

end Circulation.Text
