/-
**Cutting a text at a mark.**

Main definitions:

* `cutFirst` — the parts before and after the first occurrence of a mark;
* `cutLast` — the parts before and after the last occurrence of a character;
* `joinWith` — pieces joined by a separator.

Main results:

* `cutFirst_eq_some`, `cutLast_eq_some` — the two parts and the mark make up the text.
-/

set_option relaxedAutoImplicit false
set_option autoImplicit false

namespace Circulation.Text

/-! ### The first occurrence -/

/-- The parts before and after the first occurrence of `mark`. -/
def cutFirst (mark : List Char) : List Char → Option (List Char × List Char)
  | [] => none
  | c :: cs =>
      match mark.isPrefixOf? (c :: cs) with
      | some rest => some ([], rest)
      | none => (cutFirst mark cs).map fun p => (c :: p.1, p.2)

@[simp] theorem cutFirst_nil (mark : List Char) : cutFirst mark [] = none := rfl

theorem isPrefixOf?_nil_left (cs : List Char) : [].isPrefixOf? cs = some cs := rfl

theorem isPrefixOf?_cons_nil (a : Char) (p : List Char) : (a :: p).isPrefixOf? [] = none := rfl

theorem isPrefixOf?_cons_cons (a c : Char) (p cs : List Char) :
    (a :: p).isPrefixOf? (c :: cs) = if a == c then p.isPrefixOf? cs else none := rfl

/-- The rest after a prefix, put behind it again, is the whole. -/
theorem append_of_isPrefixOf?_eq_some {p cs rest : List Char}
    (h : p.isPrefixOf? cs = some rest) : p ++ rest = cs := by
  induction p generalizing cs with
  | nil => simpa [isPrefixOf?_nil_left] using h.symm
  | cons a p ih =>
      cases cs with
      | nil => simp [isPrefixOf?_cons_nil] at h
      | cons c cs =>
          by_cases hac : a = c
          · subst hac
            simp only [isPrefixOf?_cons_cons, beq_self_eq_true, if_true] at h
            simp [ih h]
          · simp [isPrefixOf?_cons_cons, hac] at h

/-- The two parts and the mark make up the text. -/
theorem cutFirst_eq_some {mark cs a b : List Char} (h : cutFirst mark cs = some (a, b)) :
    cs = a ++ mark ++ b := by
  induction cs generalizing a b with
  | nil => simp at h
  | cons c cs ih =>
      simp only [cutFirst] at h
      split at h
      · next rest hrest =>
          simp only [Option.some.injEq, Prod.mk.injEq] at h
          obtain ⟨rfl, rfl⟩ := h
          simp [append_of_isPrefixOf?_eq_some hrest]
      · next =>
          cases hcut : cutFirst mark cs with
          | none => simp [hcut] at h
          | some p =>
              simp only [hcut, Option.map_some, Option.some.injEq, Prod.mk.injEq] at h
              obtain ⟨rfl, rfl⟩ := h
              simp [ih hcut]

/-! ### The last occurrence -/

/-- The parts before and after the last occurrence of the character `mark`. -/
def cutLast (mark : Char) : List Char → Option (List Char × List Char)
  | [] => none
  | c :: cs =>
      match cutLast mark cs with
      | some p => some (c :: p.1, p.2)
      | none => if c = mark then some ([], cs) else none

@[simp] theorem cutLast_nil (mark : Char) : cutLast mark [] = none := rfl

/-- The two parts and the mark make up the text. -/
theorem cutLast_eq_some {mark : Char} {cs a b : List Char} (h : cutLast mark cs = some (a, b)) :
    cs = a ++ mark :: b := by
  induction cs generalizing a b with
  | nil => simp at h
  | cons c cs ih =>
      simp only [cutLast] at h
      cases hcut : cutLast mark cs with
      | none =>
          simp only [hcut] at h
          split at h
          · next hc =>
              simp only [Option.some.injEq, Prod.mk.injEq] at h
              obtain ⟨rfl, rfl⟩ := h
              simp [hc]
          · simp at h
      | some p =>
          simp only [hcut, Option.some.injEq, Prod.mk.injEq] at h
          obtain ⟨rfl, rfl⟩ := h
          simp [ih hcut]

/-! ### Joining -/

/-- The pieces with a separator between each two. -/
def joinWith (separator : String) : List String → String
  | [] => ""
  | [s] => s
  | s :: t :: rest => s ++ separator ++ joinWith separator (t :: rest)

@[simp] theorem joinWith_nil (separator : String) : joinWith separator [] = "" := rfl

@[simp] theorem joinWith_singleton (separator s : String) : joinWith separator [s] = s := rfl

end Circulation.Text
