import VmLifecycle.Text.Decimal

/-!
# Durations

Lengths of time, exact to the nanosecond.
-/

namespace VmLifecycle

structure Duration where
  nanoseconds : Nat
deriving DecidableEq, Repr

namespace Duration

def ofSeconds (secs nanos : Nat) : Duration :=
  ⟨secs * 1000000000 + nanos⟩

def ofMilliseconds (ms : Nat) : Duration :=
  ⟨ms * 1000000⟩

def seconds (d : Duration) : Nat :=
  d.nanoseconds / 1000000000

def milliseconds (d : Duration) : Nat :=
  d.nanoseconds / 1000000

/-- `n / 10 ^ places` in decimal, exactly: the fraction loses its trailing
zeros, and its point with them. -/
def fixedPoint (n places : Nat) : List Char :=
  let unit := Nat.pow 10 places
  let fraction := Text.decimal (n % unit)
  let padded := List.replicate (places - fraction.length) '0' ++ fraction
  let significant := (padded.reverse.dropWhile (· = '0')).reverse
  let whole := Text.decimal (n / unit)
  if significant.isEmpty then whole else whole ++ '.' :: significant

/-- The duration in the largest unit of which it holds at least one. -/
def toText (d : Duration) : String :=
  let n := d.nanoseconds
  if 1000000000 ≤ n then String.ofList (fixedPoint n 9) ++ "s"
  else if 1000000 ≤ n then String.ofList (fixedPoint n 6) ++ "ms"
  else if 1000 ≤ n then String.ofList (fixedPoint n 3) ++ "µs"
  else String.ofList (Text.decimal n) ++ "ns"

example : (ofSeconds 1 500000000).toText = "1.5s" := by decide +kernel
example : (ofSeconds 0 1001).toText = "1.001µs" := by decide +kernel

end Duration

end VmLifecycle
