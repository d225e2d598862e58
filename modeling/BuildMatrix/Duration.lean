import BuildMatrix.Number.Decimal

namespace BuildMatrix

open Number

/-- A span of time; fewer than 10⁹ nanoseconds are kept apart from the seconds. -/
structure Duration where
  seconds : Nat
  nanos : Nat
  deriving DecidableEq, Inhabited

namespace Duration

def ofMillis (ms : Nat) : Duration := ⟨ms / 1000, ms % 1000 * 1000000⟩

/-- The seconds as a binary64 value: whole seconds and the fraction are rounded, then their sum. -/
def inSeconds (d : Duration) : Binary64 :=
  (Binary64.ofRatio d.seconds 1).add (Binary64.ofRatio d.nanos 1000000000)

def display (d : Duration) : String :=
  let minute := Binary64.ofRatio 60 1
  if d.inSeconds.lt minute then d.inSeconds.fixed 2 ++ "s"
  else (d.inSeconds.div minute).fixed 1 ++ "m"

end Duration

end BuildMatrix
