/-
**The first and the last occurrence are found.**

A mark whose first character does not come again in it cannot begin in front of an occurrence of
itself and end inside it.  So a text is cut at such a mark exactly where the mark stands for the
first time, whatever follows; and it is cut at the last occurrence of a character exactly where none
follows, whatever stands in front.

Main results:

* `isPrefixOf?_append` — what stands behind a prefix;
* `not_infix_of_cutFirst` — where no cut is made the mark does not occur;
* `length_le_of_cutFirst` — **no occurrence of the mark begins before the cut**;
* `cutFirst_eq_some_iff` — **the first cut is the one with no mark in front of it**;
* `cutLast_eq_some_iff` — **the last cut is the one with no mark behind it**.
-/

import Circulation.Text.Cut
import Mathlib.Data.List.Infix

set_option relaxedAutoImplicit false
set_option autoImplicit false

namespace Circulation.Text

/-! ### The first occurrence -/

/-- What stands behind a prefix. -/
theorem isPrefixOf?_append (p rest : List Char) : p.isPrefixOf? (p ++ rest) = some rest := by
  induction p with
  | nil => exact isPrefixOf?_nil_left rest
  | cons a p ih =>
      rw [List.cons_append, isPrefixOf?_cons_cons, if_pos (beq_self_eq_true a)]
      exact ih

variable {mark : List Char}

/-- Where no cut is made the mark does not occur. -/
theorem not_infix_of_cutFirst {cs : List Char} (hmark : mark ≠ []) (h : cutFirst mark cs = none) :
    ¬mark <:+: cs := by
  induction cs with
  | nil => exact fun hoccurs => hmark (List.infix_nil.1 hoccurs)
  | cons c cs ih =>
      rw [cutFirst] at h
      split at h
      · cases h
      · next hfront =>
          intro hoccurs
          rcases List.infix_cons_iff.1 hoccurs with ⟨rest, hrest⟩ | hoccurs
          · rw [← hrest, isPrefixOf?_append] at hfront
            cases hfront
          · exact ih (Option.map_eq_none_iff.1 h) hoccurs

/-- **No occurrence of the mark begins before the cut.** -/
theorem length_le_of_cutFirst {cs a b a' b' : List Char} (h : cutFirst mark cs = some (a, b))
    (h' : cs = a' ++ mark ++ b') : a.length ≤ a'.length := by
  induction cs generalizing a a' with
  | nil => cases h
  | cons c cs ih =>
      rw [cutFirst] at h
      split at h
      · obtain ⟨rfl, -⟩ := Prod.mk.inj (Option.some.inj h)
        exact Nat.zero_le _
      · next hfront =>
          obtain ⟨⟨a, b⟩, hcut, heq⟩ := Option.map_eq_some_iff.1 h
          obtain ⟨rfl, rfl⟩ := Prod.mk.inj heq
          cases a' with
          | nil =>
              -- here the mark would be a prefix
              rw [h', List.nil_append, isPrefixOf?_append] at hfront
              cases hfront
          | cons c' a' =>
              rw [List.cons_append, List.cons_append] at h'
              exact Nat.succ_le_succ (ih hcut (List.cons.inj h').2)

/-- The mark does not occur in front of the cut. -/
theorem not_infix_front_of_cutFirst {cs a b : List Char} (hmark : mark ≠ [])
    (h : cutFirst mark cs = some (a, b)) : ¬mark <:+: a := by
  rintro ⟨front, back, rfl⟩
  have hcs : cs = front ++ mark ++ (back ++ mark ++ b) := by
    rw [cutFirst_eq_some h]
    simp only [List.append_assoc]
  have hle := length_le_of_cutFirst h hcs
  have hpos := List.length_pos_iff.2 hmark
  simp only [List.length_append] at hle
  omega

section Unrepeated

variable {c : Char} {m : List Char} (hc : c ∉ m)
include hc

/-- A mark does not begin in front of its first occurrence. -/
theorem isPrefixOf?_front {d : Char} {a : List Char} (ha : ¬c :: m <:+: d :: a) (b : List Char) :
    (c :: m).isPrefixOf? (d :: (a ++ c :: m ++ b)) = none := by
  cases hfront : (c :: m).isPrefixOf? (d :: (a ++ c :: m ++ b)) with
  | none => rfl
  | some rest =>
      obtain ⟨rfl, hm⟩ := List.cons.inj (append_of_isPrefixOf?_eq_some hfront)
      rw [List.append_assoc] at hm
      rcases List.append_eq_append_iff.1 hm with ⟨back, rfl, -⟩ | ⟨overlap, rfl, hoverlap⟩
      · exact absurd ⟨[], back, rfl⟩ ha
      · cases overlap with
        | nil => exact absurd ⟨[], [], by simp⟩ ha
        | cons e overlap =>
            -- the mark would hold its first character again
            obtain ⟨rfl, -⟩ := List.cons.inj hoverlap
            exact absurd (List.mem_append_right a List.mem_cons_self) hc

/-- A text is cut at a mark that does not occur in front. -/
theorem cutFirst_append {a : List Char} (ha : ¬c :: m <:+: a) (b : List Char) :
    cutFirst (c :: m) (a ++ c :: m ++ b) = some (a, b) := by
  induction a with
  | nil =>
      rw [List.nil_append, List.cons_append, cutFirst, ← List.cons_append, isPrefixOf?_append]
  | cons d a ih =>
      have htail : ¬c :: m <:+: a := fun h => ha (List.infix_cons h)
      rw [List.cons_append, List.cons_append, cutFirst, isPrefixOf?_front hc ha]
      simp only [ih htail, Option.map_some]

/-- **The first cut is the one with no mark in front of it.** -/
theorem cutFirst_eq_some_iff {cs a b : List Char} :
    cutFirst (c :: m) cs = some (a, b) ↔ cs = a ++ c :: m ++ b ∧ ¬c :: m <:+: a := by
  constructor
  · intro h
    exact ⟨cutFirst_eq_some h, not_infix_front_of_cutFirst (List.cons_ne_nil c m) h⟩
  · rintro ⟨rfl, ha⟩
    exact cutFirst_append hc ha b

end Unrepeated

/-- The first cut at a character is the one with no such character in front of it. -/
theorem cutFirst_singleton_eq_some_iff {mark : Char} {cs a b : List Char} :
    cutFirst [mark] cs = some (a, b) ↔ cs = a ++ mark :: b ∧ mark ∉ a := by
  rw [cutFirst_eq_some_iff List.not_mem_nil, List.singleton_infix_iff, List.append_assoc,
    List.singleton_append]

/-! ### The last occurrence -/

variable {last : Char} {cs a b : List Char}

/-- Where no cut is made the character does not occur. -/
theorem notMem_of_cutLast_eq_none (h : cutLast last cs = none) : last ∉ cs := by
  induction cs with
  | nil => exact List.not_mem_nil
  | cons c cs ih =>
      rw [cutLast] at h
      split at h
      · cases h
      · next hcut =>
          split at h
          · cases h
          · next hne =>
              rw [List.mem_cons, not_or]
              exact ⟨fun heq => hne heq.symm, ih hcut⟩

theorem cutLast_eq_none_iff : cutLast last cs = none ↔ last ∉ cs := by
  constructor
  · exact notMem_of_cutLast_eq_none
  · intro h
    cases hcut : cutLast last cs with
    | none => rfl
    | some p =>
        refine absurd ?_ h
        rw [cutLast_eq_some (show cutLast last cs = some (p.1, p.2) from hcut)]
        exact List.mem_append_right _ List.mem_cons_self

/-- A text is cut at a character that does not occur behind. -/
theorem cutLast_append (h : last ∉ b) : cutLast last (a ++ last :: b) = some (a, b) := by
  induction a with
  | nil => rw [List.nil_append, cutLast, cutLast_eq_none_iff.2 h, if_pos rfl]
  | cons c a ih => rw [List.cons_append, cutLast, ih]

/-- The character does not occur behind the cut. -/
theorem notMem_of_cutLast (h : cutLast last cs = some (a, b)) : last ∉ b := by
  induction cs generalizing a with
  | nil => cases h
  | cons c cs ih =>
      rw [cutLast] at h
      split at h
      · next p hcut =>
          obtain ⟨-, rfl⟩ := Prod.mk.inj (Option.some.inj h)
          exact ih hcut
      · next hcut =>
          split at h
          · obtain ⟨-, rfl⟩ := Prod.mk.inj (Option.some.inj h)
            exact notMem_of_cutLast_eq_none hcut
          · cases h

/-- **The last cut is the one with no mark behind it.** -/
theorem cutLast_eq_some_iff : cutLast last cs = some (a, b) ↔ cs = a ++ last :: b ∧ last ∉ b := by
  constructor
  · intro h
    exact ⟨cutLast_eq_some h, notMem_of_cutLast h⟩
  · rintro ⟨rfl, hb⟩
    exact cutLast_append hb

end Circulation.Text
