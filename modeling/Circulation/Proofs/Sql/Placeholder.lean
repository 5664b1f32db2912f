/-
**Placeholders in a text.**

A placeholder is a dollar sign with digits behind it.  What follows the digits decides where they
end: a text that goes on with a digit makes another placeholder of the same dollar sign.  So a text
is described together with whatever may stand behind it, and texts described like this are put
together one behind the other.

Main definitions:

* `placeholdersIn` — the placeholders that are read off a text;
* `Numbered` — a text whose placeholders have consecutive numbers;
* `Layout` — a text of words with consecutive placeholders between them;
* `slotTexts` — entries that end with a placeholder each.

Main results:

* `Layout.append`, `layout_slotTexts` — putting texts together;
* `Layout.numbered` — **a text that is laid out is numbered**, if its words hold no dollar sign.
-/

import Circulation.Sql.Statement

set_option relaxedAutoImplicit false
set_option autoImplicit false

namespace Circulation

/-! ### Reading placeholders -/

/-- The placeholders of a text, from the left to the right: every dollar sign with the digits
behind it. -/
def placeholdersIn : List Char → List String
  | [] => []
  | c :: cs =>
      if c = '$' then String.ofList ('$' :: cs.takeWhile Char.isDigit) :: placeholdersIn cs
      else placeholdersIn cs

/-- A text without a dollar sign. -/
def Plain (w : List Char) : Prop := '$' ∉ w

/-- A text that does not go on with a digit. -/
def Separate (t : List Char) : Prop := ∀ c ∈ t.head?, c.isDigit = false

theorem plain_append {v w : List Char} (hv : Plain v) (hw : Plain w) : Plain (v ++ w) := by
  intro h
  rcases List.mem_append.1 h with h | h
  · exact hv h
  · exact hw h

theorem separate_nil : Separate [] := by
  intro c hc
  simp at hc

theorem separate_append {s t : List Char} (hs : Separate s) (ht : Separate t) :
    Separate (s ++ t) := by
  cases s with
  | nil => exact ht
  | cons c s =>
      intro d hd
      exact hs d hd

/-- In front of a text without a dollar sign there is no other placeholder. -/
theorem placeholdersIn_plain_append {w : List Char} (hw : Plain w) (t : List Char) :
    placeholdersIn (w ++ t) = placeholdersIn t := by
  induction w with
  | nil => rfl
  | cons c w ih =>
      have hc : c ≠ '$' := fun h => hw (h ▸ List.mem_cons_self)
      have hrest : Plain w := fun h => hw (List.mem_cons_of_mem c h)
      rw [List.cons_append, placeholdersIn, if_neg hc, ih hrest]

/-- A placeholder is a dollar sign with the digits of its number. -/
theorem toList_placeholder_eq (i : Nat) : (placeholder i).toList = '$' :: Nat.toDigits 10 i := by
  rw [placeholder, String.toList_append, Nat.toList_repr]
  rfl

/-- The digits of a number are digits, and no dollar sign is among them. -/
theorem toList_placeholder (i : Nat) :
    ∃ digits : List Char, (placeholder i).toList = '$' :: digits ∧
      (∀ c ∈ digits, c.isDigit = true) ∧ Plain digits := by
  have hdigit : ∀ c ∈ Nat.toDigits 10 i, c.isDigit = true := by
    intro c hc
    exact Nat.isDigit_of_mem_toDigits (by decide) (by decide) hc
  refine ⟨Nat.toDigits 10 i, toList_placeholder_eq i, hdigit, ?_⟩
  intro hdollar
  have h := hdigit '$' hdollar
  exact absurd h (by decide)

/-- A placeholder is read back where no digit follows it. -/
theorem placeholdersIn_placeholder_append (i : Nat) {t : List Char} (ht : Separate t) :
    placeholdersIn ((placeholder i).toList ++ t) = placeholder i :: placeholdersIn t := by
  obtain ⟨digits, hdigits, hall, hplain⟩ := toList_placeholder i
  -- the digits end where the placeholder ends, since none follows
  have hrest : t.takeWhile Char.isDigit = [] := by
    cases t with
    | nil => rfl
    | cons c t =>
        have hc : c.isDigit = false := ht c rfl
        rw [List.takeWhile_cons, hc]
        rfl
  have hread : (digits ++ t).takeWhile Char.isDigit = digits := by
    rw [List.takeWhile_append_of_pos hall, hrest, List.append_nil]
  rw [hdigits, List.cons_append, placeholdersIn, if_pos rfl, hread,
    placeholdersIn_plain_append hplain, ← hdigits, String.ofList_toList]

/-! ### Numbered texts -/

/-- A text with `n` placeholders, numbered from `i` on, as long as no digit follows it. -/
def Numbered (i n : Nat) (cs : List Char) : Prop :=
  ∀ t, Separate t →
    placeholdersIn (cs ++ t) = (List.range' i n).map placeholder ++ placeholdersIn t

namespace Numbered

variable {i n m : Nat} {cs ds : List Char}

/-- What is read off a numbered text by itself. -/
theorem placeholdersIn (h : Numbered i n cs) :
    Circulation.placeholdersIn cs = (List.range' i n).map placeholder := by
  have hend := h [] separate_nil
  rw [List.append_nil] at hend
  rw [hend]
  exact List.append_nil _

theorem nil (i : Nat) : Numbered i 0 [] := fun _ _ => rfl

/-- A text without a dollar sign adds nothing in front. -/
theorem word_append (hw : Plain ds) (h : Numbered i n cs) : Numbered i n (ds ++ cs) := by
  intro t ht
  rw [List.append_assoc, placeholdersIn_plain_append hw, h t ht]

/-- A placeholder in front takes the number before the others. -/
theorem slot_append (h : Numbered (i + 1) n cs) (hs : Separate cs) :
    Numbered i (n + 1) ((placeholder i).toList ++ cs) := by
  intro t ht
  rw [List.append_assoc, placeholdersIn_placeholder_append i (separate_append hs ht), h t ht]
  rfl

end Numbered

/-! ### Words and placeholders -/

/-- A text that may stand behind a placeholder: it begins neither with a digit of any script nor
with another placeholder. -/
def Parted (t : List Char) : Prop := ∀ c ∈ t.head?, c ≠ '$' ∧ Text.isDecimalDigit c = false

theorem Parted.separate {t : List Char} (ht : Parted t) : Separate t := by
  intro c hc
  refine Bool.eq_false_iff.2 fun hdigit => ?_
  have hnone := (ht c hc).2
  rw [Text.isDecimalDigit_of_isDigit hdigit] at hnone
  cases hnone

theorem parted_append {s t : List Char} (hs : Parted s) (ht : Parted t) : Parted (s ++ t) := by
  cases s with
  | nil => exact ht
  | cons c s =>
      intro d hd
      exact hs d hd

/-- A text of words and `n` placeholders, numbered from `i` on. -/
inductive Layout (W : List Char → Prop) : Nat → Nat → List Char → Prop
  | nil (i : Nat) : Layout W i 0 []
  | word {i n : Nat} {w cs : List Char} (hw : W w) (h : Layout W i n cs) : Layout W i n (w ++ cs)
  | slot {i n : Nat} {cs : List Char} (h : Layout W (i + 1) n cs) (hs : Parted cs) :
      Layout W i (n + 1) ((placeholder i).toList ++ cs)

namespace Layout

variable {W : List Char → Prop} {i n m : Nat} {cs ds : List Char}

theorem ofWord (hw : W cs) (i : Nat) : Layout W i 0 cs := by
  have h := word hw (nil i)
  rwa [List.append_nil] at h

theorem ofSlot (i : Nat) : Layout W i 1 (placeholder i).toList := by
  have h := slot (W := W) (nil (i + 1)) (by simp [Parted])
  rwa [List.append_nil] at h

/-- The numbers go on in the second text, which may stand behind a placeholder. -/
theorem append (h : Layout W i n cs) (hd : Layout W (i + n) m ds) (hs : Parted ds) :
    Layout W i (n + m) (cs ++ ds) := by
  induction h with
  | nil i => rwa [Nat.zero_add]
  | word hw _ ih =>
      rw [List.append_assoc]
      exact word hw (ih hd)
  | @slot i n cs _ hcs ih =>
      rw [List.append_assoc, Nat.add_right_comm]
      refine slot (ih ?_) (parted_append hcs hs)
      rwa [Nat.add_right_comm]

/-- **A text that is laid out is numbered**, if its words hold no dollar sign. -/
theorem numbered (hW : ∀ {w}, W w → Plain w) (h : Layout W i n cs) : Numbered i n cs := by
  induction h with
  | nil i => exact Numbered.nil i
  | word hw _ ih => exact ih.word_append (hW hw)
  | slot _ hs ih => exact ih.slot_append hs.separate

end Layout

/-! ### Entries with a placeholder each -/

/-- Entries that end with a placeholder each, numbered from `i` on. -/
def slotTexts {α : Type} (front : α → String) (i : Nat) (l : List α) : List String :=
  (l.zipIdx i).map fun x => front x.1 ++ placeholder x.2

theorem slotTexts_cons {α : Type} (front : α → String) (i : Nat) (a : α) (l : List α) :
    slotTexts front i (a :: l) = (front a ++ placeholder i) :: slotTexts front (i + 1) l := by
  rw [slotTexts, List.zipIdx_cons, List.map_cons]
  rfl

/-- **Entries that are numbered one after the other are laid out as a whole**, if what stands
between them keeps them apart. -/
theorem layout_slotTexts {α : Type} {W : List Char → Prop} {separator : String} {front : α → String}
    {l : List α} (hfront : ∀ a ∈ l, W (front a).toList) (hseparator : W separator.toList)
    (hparted : ∀ t, Parted (separator.toList ++ t)) (i : Nat) :
    Layout W i l.length (Text.joinWith separator (slotTexts front i l)).toList := by
  -- by induction on the entries, with the number of the first one left open
  induction l generalizing i with
  | nil => exact .nil i
  | cons a l ih =>
      have ha : W (front a).toList := hfront a List.mem_cons_self
      have hl : ∀ b ∈ l, W (front b).toList := fun b hb => hfront b (List.mem_cons_of_mem a hb)
      cases l with
      | nil =>
          rw [slotTexts_cons, slotTexts, List.zipIdx_nil, List.map_nil, Text.joinWith_singleton,
            String.toList_append]
          exact .word ha (.ofSlot i)
      | cons b l =>
          have hrest := ih hl (i + 1)
          rw [slotTexts_cons] at hrest
          rw [slotTexts_cons, slotTexts_cons, Text.joinWith, String.toList_append,
            String.toList_append, String.toList_append, List.append_assoc, List.append_assoc]
          exact .word ha (.slot (.word hseparator hrest) (hparted _))

end Circulation
