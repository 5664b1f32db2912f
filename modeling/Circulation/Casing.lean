/-
**The two spellings of a name: `publicationYear` on the wire, `publication_year` in storage.**

Going to storage, every capital but a leading one gets an underscore in front, and all letters
become small.  Going to the wire, the name becomes small first; then an underscore and the ASCII
letter behind it become one capital letter.  An underscore in front of anything else stays.

Main definitions:

* `Casing.storageChars`, `toStorageCasing` — the storage spelling;
* `Casing.wireChars`, `toWireCasing` — the wire spelling.
-/

import Circulation.Text.Case

set_option relaxedAutoImplicit false
set_option autoImplicit false

namespace Circulation

namespace Casing

open Text

/-! ### To storage -/

/-- The storage spelling behind the first character. -/
def storageTail : List Char → List Char
  | [] => []
  | c :: cs => (if isCapital c then '_' :: lowerChar c else [c]) ++ storageTail cs

/-- The storage spelling of a name. -/
def storageChars : List Char → List Char
  | [] => []
  | c :: cs => (if isCapital c then lowerChar c else [c]) ++ storageTail cs

theorem storageTail_cons (c : Char) (cs : List Char) :
    storageTail (c :: cs) =
      (if isCapital c then '_' :: lowerChar c else [c]) ++ storageTail cs := rfl

/-! ### To the wire -/

/-- Join each underscore with the ASCII letter behind it. -/
def foldUnderscores : List Char → List Char
  | [] => []
  | '_' :: c :: cs =>
      if c.isLower then c.toUpper :: foldUnderscores cs else '_' :: foldUnderscores (c :: cs)
  | c :: cs => c :: foldUnderscores cs

/-- The wire spelling of a name. -/
def wireChars (cs : List Char) : List Char := foldUnderscores (lowerChars cs)

@[simp] theorem foldUnderscores_nil : foldUnderscores [] = [] := rfl

@[simp] theorem foldUnderscores_singleton (c : Char) : foldUnderscores [c] = [c] := by
  by_cases h : c = '_' <;> simp [foldUnderscores]

theorem foldUnderscores_cons_of_ne {c : Char} (h : c ≠ '_') (cs : List Char) :
    foldUnderscores (c :: cs) = c :: foldUnderscores cs := by
  cases cs with
  | nil => simp
  | cons d cs => rw [foldUnderscores]; simp [h]

theorem foldUnderscores_underscore (c : Char) (cs : List Char) :
    foldUnderscores ('_' :: c :: cs) =
      if c.isLower then c.toUpper :: foldUnderscores cs
      else '_' :: foldUnderscores (c :: cs) := rfl

end Casing

/-- The spelling of a name in storage. -/
def toStorageCasing (name : String) : String := String.ofList (Casing.storageChars name.toList)

/-- The spelling of a name on the wire. -/
def toWireCasing (name : String) : String := String.ofList (Casing.wireChars name.toList)

end Circulation
