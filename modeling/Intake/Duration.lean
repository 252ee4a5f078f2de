/-!
# Durations

A duration is written in the largest unit that it fills once at least, with as
many decimals as it takes and no trailing zero.
-/

namespace Intake

/-- A span of time. -/
structure Duration where
  nanoseconds : Nat
  deriving Repr, DecidableEq, Inhabited, Ord

namespace Duration

def ofMilliseconds (n : Nat) : Duration := ⟨n * 1000000⟩

def ofSeconds (n : Nat) : Duration := ⟨n * 1000000000⟩

/-- The decimals of a remainder: its digits, padded to `places`, without
trailing zeros. -/
def decimals (places remainder : Nat) : String :=
  let digits := Nat.toDigits 10 remainder
  let padded := List.replicate (places - digits.length) '0' ++ digits
  let kept := (padded.reverse.dropWhile (· == '0')).reverse
  if kept.isEmpty then "" else "." ++ String.ofList kept

/-- A number of nanoseconds in units of `10 ^ places` nanoseconds. -/
def inUnit (nanoseconds places : Nat) (unit : String) : String :=
  let size := Nat.pow 10 places
  toString (nanoseconds / size) ++ decimals places (nanoseconds % size) ++ unit

def text (duration : Duration) : String :=
  let n := duration.nanoseconds
  if n ≥ 1000000000 then inUnit n 9 "s"
  else if n ≥ 1000000 then inUnit n 6 "ms"
  else if n ≥ 1000 then inUnit n 3 "µs"
  else inUnit n 0 "ns"

end Duration

end Intake
