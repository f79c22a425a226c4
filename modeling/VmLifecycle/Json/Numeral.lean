import VmLifecycle.Json.Reader
import VmLifecycle.Text.Decimal

/-!
# JSON numerals

The grammar of numerals, the whole numbers among them, and the range of those
that may be read: a numeral whose value lies beyond every finite binary64
number is refused, whatever type was wanted.
-/

namespace VmLifecycle.Json

/-- A numeral by its parts. A part that is not written is empty. -/
structure Numeral where
  negative : Bool
  whole : List Char
  fraction : List Char
  negativeExponent : Bool
  exponent : List Char
deriving DecidableEq, Repr

/-- Takes a row of at least one digit. `cut` is the fault of a text that ends
before the first. -/
def digitRow (cut : ReadError) (s : List Char) : Except ReadError (List Char × List Char) :=
  match s with
  | [] => .error cut
  | c :: _ =>
    if c.isDigit then .ok (s.takeWhile Char.isDigit, s.dropWhile Char.isDigit)
    else .error .malformed

/-- Takes the digits before the point: a single zero, or a row that does not
begin with one. -/
def wholePart (cut : ReadError) (s : List Char) : Except ReadError (List Char × List Char) :=
  match s with
  | '0' :: rest =>
    if (rest.head?.map Char.isDigit).getD false then .error .malformed else .ok (['0'], rest)
  | _ => digitRow cut s

/-- Takes the point and the digits after it, if there is a point. -/
def fractionPart (cut : ReadError) (s : List Char) : Except ReadError (List Char × List Char) :=
  match s with
  | '.' :: rest => digitRow cut rest
  | _ => .ok ([], s)

/-- Takes the exponent, if there is one: its sign and its digits. -/
def exponentPart (cut : ReadError) (s : List Char) :
    Except ReadError ((Bool × List Char) × List Char) :=
  let signed (s : List Char) : Except ReadError ((Bool × List Char) × List Char) :=
    match s with
    | '-' :: rest => (digitRow cut rest).map fun r => ((true, r.1), r.2)
    | '+' :: rest => (digitRow cut rest).map fun r => ((false, r.1), r.2)
    | _ => (digitRow cut s).map fun r => ((false, r.1), r.2)
  match s with
  | 'e' :: rest => signed rest
  | 'E' :: rest => signed rest
  | _ => .ok ((false, []), s)

def scanNumeral (cut : ReadError) (s : List Char) : Except ReadError (Numeral × List Char) := do
  let (negative, s) := match s with
    | '-' :: rest => (true, rest)
    | _ => (false, s)
  let (whole, s) ← wholePart cut s
  let (fraction, s) ← fractionPart cut s
  let ((negativeExponent, exponent), s) ← exponentPart cut s
  return (⟨negative, whole, fraction, negativeExponent, exponent⟩, s)

/-- Rounds `n` to the nearest number of at most 53 binary digits, ties to the
even one. -/
def nearest53 (n : Nat) : Nat :=
  if n < 1 <<< 53 then n
  else
    let unit := 1 <<< (n.log2 - 52)
    let quotient := n / unit
    let up := unit < 2 * (n % unit) || (2 * (n % unit) == unit && quotient % 2 == 1)
    (if up then quotient + 1 else quotient) * unit

/-- From here on a number rounds to infinity. -/
def overflowBound : Nat := 1 <<< 1024 - 1 <<< 970

/-- Takes digits into `significand` as long as it stays in 64 bits. Gives the
significand and how many digits were taken, counting on from `taken`. -/
def takeDigits (significand taken : Nat) : List Char → Nat × Nat
  | [] => (significand, taken)
  | c :: digits =>
    let next := significand * 10 + (c.toNat - '0'.toNat)
    if next < UInt64.size then takeDigits next (taken + 1) digits
    else (significand, taken)

/-- The number that the digits of an exponent stand for. Beyond the bound all
exponents are alike, since no text is long enough to make up for them. -/
def exponentValue (digits : List Char) : Nat :=
  digits.foldl (fun n c => min (n * 10 + (c.toNat - '0'.toNat)) (1 <<< 31)) 0

namespace Numeral

/-- Whether the numeral's magnitude is that of a finite number. The digits are
cut to a 64-bit significand first; significand and power of ten are rounded
each on its own, and then their product. -/
def isFinite (n : Numeral) : Bool :=
  let (head, takenWhole) := takeDigits 0 0 n.whole
  let (significand, takenFraction) := takeDigits head 0 n.fraction
  let written := Int.ofNat (exponentValue n.exponent)
  let shift := Int.ofNat (n.whole.length - takenWhole) - Int.ofNat takenFraction +
    (if n.negativeExponent then -written else written)
  if significand = 0 || shift < 0 then true
  else if 308 < shift then false
  else nearest53 significand * nearest53 (Nat.pow 10 shift.toNat) < overflowBound

/-- The number, if it is written as a whole number without a sign and fits in
64 bits. -/
def natural? (n : Numeral) : Option Nat :=
  if n.negative || !n.fraction.isEmpty || !n.exponent.isEmpty then none
  else if Text.decimalValue n.whole < UInt64.size then some (Text.decimalValue n.whole)
  else none

end Numeral

def readNumeral : Reader Numeral := do
  let (n, rest) ← scanNumeral .truncated (← get)
  set rest
  if n.isFinite then return n else throw .malformed

end VmLifecycle.Json
