/-!
# Reading JSON text

A reader takes characters from the front of a text and leaves the rest. It
reports the first fault it meets, reading from left to right, as one of three
kinds. This module holds what all readers share: the faults, the blanks between
tokens, literals, and a loop that is total because every round takes a
character.
-/

namespace VmLifecycle.Json

/-- What is wrong with a text that should be a JSON value of some type. -/
inductive ReadError where
  /-- A character that no JSON text can have there. -/
  | malformed
  /-- Well-formed so far, but not a value of the type wanted. -/
  | mismatched
  /-- The text ends before the value does. -/
  | truncated
deriving DecidableEq, Repr

def ReadError.message : ReadError → String
  | .malformed => "malformed text"
  | .mismatched => "value of the wrong type"
  | .truncated => "text ends too early"

/-- Reads a value of type `α` off the front of a text. -/
abbrev Reader (α : Type) := StateT (List Char) (Except ReadError) α

/-- The four characters that may stand between tokens. -/
def isSpace (c : Char) : Bool :=
  c = ' ' || c = '\t' || c = '\n' || c = '\r'

namespace Reader

/-- Drops blanks, then shows the next character without taking it. -/
def peek : Reader (Option Char) := do
  modify (·.dropWhile isSpace)
  return (← get).head?

def skip : Reader Unit :=
  modify (·.drop 1)

def literal : List Char → Reader Unit
  | [] => pure ()
  | w :: word => do
    match ← get with
    | [] => throw .truncated
    | c :: rest =>
      if c = w then
        set rest
        literal word
      else throw .malformed

/-- Takes the punctuation mark `c`, blanks before it included. -/
def mark (c : Char) : Reader Unit := do
  match ← peek with
  | none => throw .truncated
  | some found => if found = c then skip else throw .malformed

/-- Rounds of `step` until one gives a result, at most one for each character
of `bound`. -/
def rounds {σ β : Type} (step : σ → Reader (σ ⊕ β)) :
    (bound : List Char) → σ → List Char → Except ReadError (β × List Char)
  | [], _, _ => .error .malformed
  | _ :: bound, st, s =>
    match (step st).run s with
    | .error e => .error e
    | .ok (.inl st, s) => rounds step bound st s
    | .ok (.inr b, s) => .ok (b, s)

/-- Repeats `step` until it gives a result. Every step here takes at least one
character unless it is the last, so there is at most one round more than the
text has characters. -/
def untilDone {σ β : Type} (step : σ → Reader (σ ⊕ β)) (st : σ) : Reader β :=
  fun s => rounds step (' ' :: s) st s

/-- Reads a text that must be one value and nothing else but blanks. -/
def whole {α : Type} (reader : Reader α) (text : String) : Except ReadError α := do
  let (a, rest) ← reader.run text.toList
  if (rest.dropWhile isSpace).isEmpty then .ok a else .error .malformed

end Reader

end VmLifecycle.Json
