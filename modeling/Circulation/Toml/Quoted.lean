/-
**Quoted texts in TOML.**

A text stands between double quotes with escapes or between single quotes without; three quotes on
each side let it run over several lines.  A text is written in the first of the forms that needs no
escape, and with escapes if there is none.

Main definitions:

* `Toml.readBasic`, `Toml.readLiteral` — texts of one line;
* `Toml.readText` — a text in any form;
* `Toml.quote` — writing a text.
-/

import Circulation.Text.Percent

set_option relaxedAutoImplicit false
set_option autoImplicit false

namespace Circulation.Toml

/-! ### Characters -/

/-- The blanks within a line. -/
def isGap (c : Char) : Bool := c == ' ' || c == '\t'

/-- Characters that may stand in a text or a comment: no control characters but the tab. -/
def isPlain (c : Char) : Bool := c == '\t' || (decide (32 ≤ c.toNat) && decide (c.toNat ≠ 127))

/-- What stands behind the end of a line at the front. -/
def afterLine? : List Char → Option (List Char)
  | '\n' :: rest => some rest
  | '\r' :: '\n' :: rest => some rest
  | _ => none

/-- The text behind an end of a line, if there is one at the front. -/
def skipLine (cs : List Char) : List Char := (afterLine? cs).getD cs

/-! ### Escapes -/

/-- The character with a number that hexadecimal digits write. -/
def charOf? (digits : List Char) : Option Char := do
  let values ← digits.mapM Text.hexValue?
  let n := values.foldl (fun n v => 16 * n + v) 0
  if n < 0xD800 ∨ 0xDFFF < n ∧ n < 0x110000 then some (Char.ofNat n) else none

/-- The character of an escape behind its backslash, and the rest. -/
def readEscape : List Char → Option (Char × List Char)
  | 'b' :: rest => some ('\x08', rest)
  | 'f' :: rest => some ('\x0c', rest)
  | 'n' :: rest => some ('\n', rest)
  | 'r' :: rest => some ('\r', rest)
  | 't' :: rest => some ('\t', rest)
  | '"' :: rest => some ('"', rest)
  | '\\' :: rest => some ('\\', rest)
  | 'u' :: rest =>
      if 4 ≤ rest.length then (charOf? (rest.take 4)).map fun c => (c, rest.drop 4) else none
  | 'U' :: rest =>
      if 8 ≤ rest.length then (charOf? (rest.take 8)).map fun c => (c, rest.drop 8) else none
  | _ => none

theorem length_lt_of_readEscape {cs rest : List Char} {c : Char}
    (h : readEscape cs = some (c, rest)) : rest.length < cs.length := by
  unfold readEscape at h
  split at h
  case h_8 rest' =>
      split at h
      · obtain ⟨_, _, hp⟩ := Option.map_eq_some_iff.1 h
        rw [← (Prod.mk.inj hp).2]
        simp only [List.length_drop, List.length_cons]
        omega
      · simp at h
  case h_9 rest' =>
      split at h
      · obtain ⟨_, _, hp⟩ := Option.map_eq_some_iff.1 h
        rw [← (Prod.mk.inj hp).2]
        simp only [List.length_drop, List.length_cons]
        omega
      · simp at h
  case h_10 => simp at h
  all_goals
    simp only [Option.some.injEq, Prod.mk.injEq] at h
    rw [← h.2]
    simp

/-! ### One line -/

/-- A text behind its opening double quote, and the rest. -/
def readBasic (cs : List Char) : Option (List Char × List Char) :=
  match cs with
  | [] => none
  | '"' :: rest => some ([], rest)
  | '\\' :: rest =>
      match _h : readEscape rest with
      | some (c, rest) => (readBasic rest).map fun p => (c :: p.1, p.2)
      | none => none
  | c :: rest => if isPlain c then (readBasic rest).map fun p => (c :: p.1, p.2) else none
termination_by cs.length
decreasing_by
  · have := length_lt_of_readEscape _h
    simp only [List.length_cons]
    omega
  · simp

/-- A text behind its opening single quote, and the rest. -/
def readLiteral : List Char → Option (List Char × List Char)
  | [] => none
  | '\'' :: rest => some ([], rest)
  | c :: rest => if isPlain c then (readLiteral rest).map fun p => (c :: p.1, p.2) else none

/-! ### Several lines -/

/-- How three quotes end a text: up to two more belong to it. -/
def closeTriple (quote : Char) (cs : List Char) : Option (List Char × List Char) :=
  let run := cs.takeWhile (· == quote)
  let rest := cs.dropWhile (· == quote)
  if 3 ≤ run.length ∧ run.length ≤ 5 then some (run.drop 3, rest) else none

/-- What stands behind blanks and ends of lines. -/
def skipLines : Nat → List Char → List Char
  | 0, cs => cs
  | n + 1, cs =>
      let cs := cs.dropWhile isGap
      match afterLine? cs with
      | some rest => skipLines n rest
      | none => cs

/-- What stands behind a backslash at the end of a line: the next character that is no blank. -/
def afterFold? (cs : List Char) : Option (List Char) :=
  (afterLine? (cs.dropWhile isGap)).map (skipLines cs.length)

/-- A text of several lines behind its opening quotes, looking at no more than `n` pieces. -/
def readBasicLines : Nat → List Char → Option (List Char × List Char)
  | 0, _ => none
  | n + 1, cs =>
      match cs with
      | [] => none
      | '"' :: rest =>
          if rest.take 2 = ['"', '"'] then closeTriple '"' cs
          else (readBasicLines n rest).map fun p => ('"' :: p.1, p.2)
      | '\\' :: rest =>
          match afterFold? rest with
          | some rest => readBasicLines n rest
          | none =>
              match readEscape rest with
              | some (c, rest) => (readBasicLines n rest).map fun p => (c :: p.1, p.2)
              | none => none
      | c :: rest =>
          match afterLine? cs with
          | some rest => (readBasicLines n rest).map fun p => ('\n' :: p.1, p.2)
          | none =>
              if isPlain c then (readBasicLines n rest).map fun p => (c :: p.1, p.2) else none

/-- A text of several lines without escapes, looking at no more than `n` pieces. -/
def readLiteralLines : Nat → List Char → Option (List Char × List Char)
  | 0, _ => none
  | n + 1, cs =>
      match cs with
      | [] => none
      | '\'' :: rest =>
          if rest.take 2 = ['\'', '\''] then closeTriple '\'' cs
          else (readLiteralLines n rest).map fun p => ('\'' :: p.1, p.2)
      | c :: rest =>
          match afterLine? cs with
          | some rest => (readLiteralLines n rest).map fun p => ('\n' :: p.1, p.2)
          | none =>
              if isPlain c then (readLiteralLines n rest).map fun p => (c :: p.1, p.2) else none

/-- A text in any form, and the rest. -/
def readText (cs : List Char) : Option (String × List Char) :=
  let read :=
    match cs with
    | '"' :: '"' :: '"' :: rest => readBasicLines cs.length (skipLine rest)
    | '"' :: rest => readBasic rest
    | '\'' :: '\'' :: '\'' :: rest => readLiteralLines cs.length (skipLine rest)
    | '\'' :: rest => readLiteral rest
    | _ => none
  read.map fun p => (String.ofList p.1, p.2)

/-! ### Writing -/

/-- A control character that every form but the escape refuses. -/
def needsEscape (c : Char) : Bool := !isPlain c && c != '\n'

/-- The length of the longest run of a character. -/
def longestRun (mark : Char) (cs : List Char) : Nat :=
  (cs.foldl (fun (best, now) c =>
    if c = mark then (max best (now + 1), now + 1) else (best, 0)) (0, 0)).1

/-- The escape of a character, if it needs one on a line or on several. -/
def escape? (lines : Bool) (c : Char) : Option (List Char) :=
  if c = '\x08' then some ['\\', 'b']
  else if c = '\t' then some ['\\', 't']
  else if c = '\n' then if lines then none else some ['\\', 'n']
  else if c = '\x0c' then some ['\\', 'f']
  else if c = '\r' then some ['\\', 'r']
  else if c = '\\' then some ['\\', '\\']
  else if needsEscape c then
    some ['\\', 'u', '0', '0', Text.hexDigit (c.toNat / 16), Text.hexDigit (c.toNat % 16)]
  else none

/-- The characters of a text with escapes; `allowed` double quotes in a row may stand as they are,
and `run` have been written last. -/
def escaped (lines : Bool) (allowed run : Nat) : List Char → List Char
  | [] => []
  | c :: cs =>
      if c = '"' then
        if run < allowed then '"' :: escaped lines allowed (run + 1) cs
        else '\\' :: '"' :: escaped lines allowed 0 cs
      else
        match escape? lines c with
        | some e => e ++ escaped lines allowed 0 cs
        | none => c :: escaped lines allowed 0 cs

/-- A text between marks, on a line of its own if it has several. -/
def between (mark : List Char) (lines : Bool) (cs : List Char) : List Char :=
  mark ++ (if lines then ['\n'] else []) ++ cs ++ mark

/-- The characters of a text, quoted. -/
def quoteChars (cs : List Char) : List Char :=
  let lines := cs.contains '\n'
  let controls := cs.any needsEscape
  let backslash := cs.contains '\\'
  let doubles := longestRun '"' cs
  let singles := longestRun '\'' cs
  if !controls && !backslash && doubles == 0 && !lines then
    between ['"'] false (escaped false 0 0 cs)
  else if !controls && singles == 0 && !lines then between ['\''] false cs
  else if !controls && !backslash && decide (doubles ≤ 2) then
    between ['"', '"', '"'] lines (escaped true 2 0 cs)
  else if !controls && decide (singles ≤ 2) then between ['\'', '\'', '\''] lines cs
  else if lines then between ['"', '"', '"'] lines (escaped true 2 0 cs)
  else between ['"'] false (escaped false 0 0 cs)

/-- A text, quoted. -/
def quote (s : String) : String := String.ofList (quoteChars s.toList)

end Circulation.Toml
