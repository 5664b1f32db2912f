/-
**Date literals: `2024-01-05`, and the export form `05-JAN-24`.**

A literal is recognised by its shape first and checked against the calendar afterwards.  The shape
takes decimal digits of any script; only ASCII digits then denote a number, and where the export
form holds others its day is taken as 0 and its year as 00.  Its years all lie in the 2000s.

Main definitions:

* `DateFault` — why a token is no date;
* `isoParts?`, `exportParts?` — the parts of a token with the shape of a literal;
* `readDate` — the date of a token, blanks around it ignored;
* `normalizeDate` — the date written as `YYYY-MM-DD`.
-/

import Circulation.Calendar.Date
import Circulation.Text.Blank
import Circulation.Text.Shape

set_option relaxedAutoImplicit false
set_option autoImplicit false

namespace Circulation

namespace Calendar

open Text

/-! ### Faults -/

/-- Why a token is no date. -/
inductive DateFault where
  /-- It has the shape of a literal, but there is no such day. -/
  | impossible (token : String)
  /-- It has the shape of no literal. -/
  | unrecognized (token : String)
  /-- It has the shape of the export form, but its letters name no month. -/
  | unknownMonth (month token : String)
deriving DecidableEq

/-- What is said about a token that is no date. -/
def DateFault.message : DateFault → String
  | .impossible token => s!"invalid calendar date '{token}'"
  | .unrecognized token => s!"unrecognized date literal '{token}'"
  | .unknownMonth month token => s!"unrecognized month '{month}' in date '{token}'"

/-! ### Shapes -/

/-- Year, month and day of a token with the shape of an ISO date. -/
def isoParts? (cs : List Char) : Option (List Char × List Char × List Char) :=
  if Shape.isoDate.fits cs then some (cs.take 4, (cs.drop 5).take 2, cs.drop 8) else none

/-- The shape of the export form behind its day: a month in letters and two digits of a year. -/
def exportTail : Shape :=
  Shape.exactly '-' :: List.replicate 3 Char.isAlpha ++ Shape.exactly '-' :: Shape.digits 2

/-- Day, month letters and year digits of a token in the export form; its day has one digit or
two. -/
def exportParts? (cs : List Char) : Option (List Char × List Char × List Char) :=
  let parts (n : Nat) := (cs.take n, (cs.drop (n + 1)).take 3, cs.drop (n + 5))
  if (Shape.digits 1 ++ exportTail).fits cs then some (parts 1)
  else if (Shape.digits 2 ++ exportTail).fits cs then some (parts 2)
  else none

/-! ### Months -/

/-- The months of the export form, in order. -/
def monthNames : List String :=
  ["JAN", "FEB", "MAR", "APR", "MAY", "JUN", "JUL", "AUG", "SEP", "OCT", "NOV", "DEC"]

/-- The number of the month that letters in any case name. -/
def monthNumber? (letters : List Char) : Option Nat :=
  (monthNames.idxOf? (String.ofList (letters.map Char.toUpper))).map (· + 1)

/-! ### Reading -/

/-- The date that the parts of an ISO literal denote. -/
def isoDate? (year month day : List Char) : Option Date := do
  let y ← readNat? year
  let m ← readNat? month
  let d ← readNat? day
  Date.ofYMD? (Int.ofNat y) m d

/-- The date of a token that is already trimmed. -/
def readTrimmed (cs : List Char) : Except DateFault Date :=
  let token := String.ofList cs
  match isoParts? cs with
  | some (year, month, day) =>
      match isoDate? year month day with
      | some d => .ok d
      | none => .error (.impossible token)
  | none =>
      match exportParts? cs with
      | none => .error (.unrecognized token)
      | some (day, letters, year) =>
          match monthNumber? letters with
          | none => .error (.unknownMonth (String.ofList letters) token)
          | some month =>
              let y : Int := 2000 + Int.ofNat ((readNat? year).getD 0)
              match Date.ofYMD? y month ((readNat? day).getD 0) with
              | some d => .ok d
              | none => .error (.impossible token)

end Calendar

/-- The date of a token, in either form. -/
def readDate (token : String) : Except Calendar.DateFault Date :=
  Calendar.readTrimmed (Text.trimChars token.toList)

/-- The date of a token, written as `YYYY-MM-DD`. -/
def normalizeDate (token : String) : Except Calendar.DateFault String :=
  (readDate token).map Date.iso

end Circulation
