/-
**Capital and small letters.**

Changing the case of a text is a full Unicode mapping: a letter may become several (`ß` is written
`SS`, `İ` becomes `i` and a dot above), and a capital sigma becomes the final form at the end of a
word.  The final sigma is the one place where the neighbours of a letter matter.

Main definitions:

* `isCapital` — the capital letters;
* `lowerChar`, `upperChar` — the other case of one letter, whatever stands around it;
* `lower`, `upper` — the other case of a text.

Main results:

* `lowerChar_of_ascii`, `lowerChars_of_ascii` — on ASCII a text gets small letter by letter.
-/

import Circulation.Text.CaseTable

set_option relaxedAutoImplicit false
set_option autoImplicit false

namespace Circulation.Text

/-! ### Classes of letters -/

/-- ASCII characters. -/
def isAscii (c : Char) : Bool := decide (c.toNat < 128)

/-- Capital letters, those without a small form included. -/
def isCapital (c : Char) : Bool :=
  if isAscii c then c.isUpper else capitalRuns.any (·.has c.toNat)

/-- Letters that carry case; among the marks that a final sigma looks past, none. -/
def isCased (c : Char) : Bool := casedRuns.any (·.has c.toNat)

/-- Characters that a final sigma looks past. -/
def isCaseIgnorable (c : Char) : Bool := caseIgnorableRuns.any (·.has c.toNat)

theorem isCapital_of_ascii {c : Char} (h : isAscii c = true) : isCapital c = c.isUpper := by
  simp [isCapital, h]

/-! ### One letter -/

/-- The code point that a table of shifts gives for `n`, and `n` itself if the table has none. -/
def shifted (table : List Shift) (n : Nat) : Nat :=
  match table.find? (·.run.has n) with
  | some s => (n + s.offset).toNat
  | none => n

/-- The letters that replace code point `n`: a spelling if the first table has one, else a shift. -/
def respelled (spellings : List (Nat × List Nat)) (shifts : List Shift) (n : Nat) : List Char :=
  match spellings.lookup n with
  | some ns => ns.map Char.ofNat
  | none => [Char.ofNat (shifted shifts n)]

/-- The small form of one letter. -/
def lowerChar (c : Char) : List Char :=
  if isAscii c then [c.toLower] else respelled lowerSpellings lowerShifts c.toNat

/-- The capital form of one letter. -/
def upperChar (c : Char) : List Char :=
  if isAscii c then [c.toUpper] else respelled upperSpellings upperShifts c.toNat

theorem lowerChar_of_ascii {c : Char} (h : isAscii c = true) : lowerChar c = [c.toLower] := by
  simp [lowerChar, h]

/-! ### A text -/

/-- Whether the next character that carries weight is a cased letter. -/
def continuesWord (cs : List Char) : Bool :=
  match cs.dropWhile isCaseIgnorable with
  | [] => false
  | c :: _ => isCased c

/-- The small form of a text; `inWord` says whether a cased letter precedes it. -/
def lowerFrom (inWord : Bool) : List Char → List Char
  | [] => []
  | c :: cs =>
      (if c = 'Σ' then [if inWord && !continuesWord cs then 'ς' else 'σ'] else lowerChar c) ++
        lowerFrom (if isCaseIgnorable c then inWord else isCased c) cs

/-- The small form of a sequence of characters. -/
def lowerChars (cs : List Char) : List Char := lowerFrom false cs

/-- The capital form of a sequence of characters. -/
def upperChars (cs : List Char) : List Char := cs.flatMap upperChar

/-- A text in small letters. -/
def lower (s : String) : String := String.ofList (lowerChars s.toList)

/-- A text in capital letters. -/
def upper (s : String) : String := String.ofList (upperChars s.toList)

/-! ### ASCII texts -/

theorem lowerFrom_of_ascii {cs : List Char} (h : cs.all isAscii = true) (inWord : Bool) :
    lowerFrom inWord cs = cs.map Char.toLower := by
  induction cs generalizing inWord with
  | nil => rfl
  | cons c cs ih =>
      simp only [List.all_cons, Bool.and_eq_true] at h
      have hs : c ≠ 'Σ' := by
        rintro rfl
        exact absurd h.1 (by decide)
      simp [lowerFrom, hs, lowerChar_of_ascii h.1, ih h.2]

/-- On ASCII texts the small form is taken letter by letter. -/
theorem lowerChars_of_ascii {cs : List Char} (h : cs.all isAscii = true) :
    lowerChars cs = cs.map Char.toLower :=
  lowerFrom_of_ascii h false

/-! ### Comparing without regard to ASCII case -/

/-- A text with its ASCII letters in capitals and all else as it is. -/
def asciiUpper (s : String) : String := String.ofList (s.toList.map Char.toUpper)

/-- Whether two texts agree but for the case of ASCII letters. -/
def sameIgnoringAsciiCase (s t : String) : Bool := asciiUpper s == asciiUpper t

end Circulation.Text
