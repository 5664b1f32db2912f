/-
**Forms: names and values in the query of an address.**

The pairs of a form stand between ampersands; empty ones are passed over, and name and value are
what stands before and behind the first equals sign.  A plus sign is a space, and other characters
may be percent-encoded.

Main definitions:

* `formPieces` — the names and values of a form, still encoded;
* `formPairs` — names and values decoded, broken bytes replaced;
* `formPairs?` — names and values decoded, or the first piece that cannot be.
-/

import Circulation.Text.Cut
import Circulation.Text.Percent

set_option relaxedAutoImplicit false
set_option autoImplicit false

namespace Circulation.Text

/-- The name and the value of a piece. -/
def cutPair (cs : List Char) : List Char × List Char := (cutFirst ['='] cs).getD (cs, [])

/-- The names and values of a form, still encoded. -/
def formPieces (cs : List Char) : List (List Char × List Char) :=
  ((cs.splitOnP (· == '&')).filter fun piece => !piece.isEmpty).map cutPair

/-- The text of an encoded name or value, broken bytes replaced. -/
def formText (cs : List Char) : String := String.ofList (percentDecodeLossy (plusToBlank cs))

/-- The text of an encoded name or value; one whose bytes are broken is given back. -/
def formText? (cs : List Char) : Except String String :=
  match percentDecode? (plusToBlank cs) with
  | some ds => .ok (String.ofList ds)
  | none => .error (String.ofList cs)

/-- The names and values of a form, broken bytes replaced. -/
def formPairs (cs : List Char) : List (String × String) :=
  (formPieces cs).map fun p => (formText p.1, formText p.2)

/-- The names and values of a form, or the first name or value whose bytes are broken. -/
def formPairs? (cs : List Char) : Except String (List (String × String)) :=
  (formPieces cs).mapM fun p => do
    let name ← formText? p.1
    let value ← formText? p.2
    return (name, value)

end Circulation.Text
