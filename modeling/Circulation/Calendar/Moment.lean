/-
**Moments: microseconds since the beginning of the year 2000.**

Main definitions:

* `Moment` — a number of microseconds;
* `Moment.clock` — the time of day with as few fraction digits as it needs, none, three or six;
* `Moment.zoneless`, `Moment.universal` — the moment as a text without and with its zone.
-/

import Circulation.Calendar.Date

set_option relaxedAutoImplicit false
set_option autoImplicit false

namespace Circulation

open Calendar

/-- A moment, in microseconds since 2000-01-01 00:00. -/
structure Moment where
  micros : Int
deriving DecidableEq

namespace Moment

/-- The microseconds of a day. -/
def microsPerDay : Int := 86400000000

/-- The day of a moment, as a date. -/
def dateChars (m : Moment) : List Char :=
  let (year, month, day) := civil (m.micros / microsPerDay)
  Calendar.dateChars year month day

/-- The fraction of a second: nothing, thousandths, or millionths. -/
def fractionChars (micros : Nat) : List Char :=
  if micros = 0 then []
  else if micros % 1000 = 0 then '.' :: padded 3 (micros / 1000)
  else '.' :: padded 6 micros

/-- The time of day. -/
def clock (m : Moment) : List Char :=
  let micros := (m.micros % microsPerDay).toNat
  let seconds := micros / 1000000
  padded 2 (seconds / 3600) ++ ':' :: padded 2 (seconds / 60 % 60) ++ ':' ::
    padded 2 (seconds % 60) ++ fractionChars (micros % 1000000)

/-- A moment without a zone: a blank stands between date and time. -/
def zoneless (m : Moment) : String := String.ofList (m.dateChars ++ ' ' :: m.clock)

/-- A moment of universal time: a `T` between date and time, and the offset zero. -/
def universal (m : Moment) : String :=
  String.ofList (m.dateChars ++ 'T' :: m.clock ++ "+00:00".toList)

end Moment

end Circulation
