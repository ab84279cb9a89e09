import EnumBindings.Number.Binary64

/-!
# Elapsed time

How long a run took, as the last status line shows it. The time is first rounded to a binary
number of seconds; below one minute it is shown in seconds, else in minutes.
-/

namespace EnumBindings

/-- A span of time: whole seconds and the nanoseconds behind them, below one thousand million. -/
structure Duration where
  seconds : Nat
  nanoseconds : Nat
deriving Repr, DecidableEq, Inhabited

namespace Duration

/-- The seconds of a span as a binary number. -/
def inSeconds (d : Duration) : Binary64 :=
  (Binary64.ofRatio d.seconds 1).add (Binary64.ofRatio d.nanoseconds 1000000000)

/-- Two places of seconds, or one place of minutes. -/
def text (d : Duration) : String :=
  if d.inSeconds.ltNat 60 then d.inSeconds.fixed 2 ++ "s"
  else (d.inSeconds.divNat 60).fixed 1 ++ "m"

end Duration

end EnumBindings
