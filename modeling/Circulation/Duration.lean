/-
**Spans of time.**

Main definitions:

* `Duration` — a number of nanoseconds;
* `Duration.ofSeconds`, `Duration.ofMicros` — how spans are made;
* `Duration.wholeMillis`, `Duration.millisUp` — milliseconds, rounded down and up;
* `Duration.display` — a span in the largest unit that it fills, without needless zeros.
-/

import Circulation.Calendar.Date

set_option relaxedAutoImplicit false
set_option autoImplicit false

namespace Circulation

/-- A span of time in nanoseconds. -/
structure Duration where
  nanos : Nat
deriving DecidableEq

namespace Duration

/-- A span of whole seconds. -/
def ofSeconds (n : Nat) : Duration := ⟨n * 1000000000⟩

/-- A span of whole microseconds. -/
def ofMicros (n : Nat) : Duration := ⟨n * 1000⟩

/-- The milliseconds that have passed in full. -/
def wholeMillis (d : Duration) : Nat := d.nanos / 1000000

/-- The milliseconds, the last one as a whole. -/
def millisUp (d : Duration) : Nat := (d.nanos + 999999) / 1000000

/-- A number of nanoseconds in a unit of `10 ^ places` nanoseconds, as a decimal. -/
def decimal (places nanos : Nat) : List Char :=
  let fraction := Calendar.padded places (nanos % Nat.pow 10 places)
  let kept := (fraction.reverse.dropWhile (· == '0')).reverse
  Nat.toDigits 10 (nanos / Nat.pow 10 places) ++ if kept.isEmpty then [] else '.' :: kept

/-- A span with its unit: seconds, or the largest unit below that it fills. -/
def display (d : Duration) : String :=
  if 1000000000 ≤ d.nanos then String.ofList (decimal 9 d.nanos) ++ "s"
  else if 1000000 ≤ d.nanos then String.ofList (decimal 6 d.nanos) ++ "ms"
  else if 1000 ≤ d.nanos then String.ofList (decimal 3 d.nanos) ++ "µs"
  else d.nanos.repr ++ "ns"

end Duration

end Circulation
