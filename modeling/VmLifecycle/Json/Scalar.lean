import VmLifecycle.Json.Pass
import VmLifecycle.Address.Ipv4

/-!
# Values of one kind

Readers for texts, numbers, flags, addresses and lists of texts. Where another
kind of value stands instead, a scalar is still read to its end, so that a
fault inside it is reported first; a bracket is refused as soon as it is seen.
-/

namespace VmLifecycle.Json

def stringAt : Reader String := do
  Reader.skip
  let (text, rest) ← stringBody [] (← get)
  set rest
  return text

/-- Refuses the value that comes next for being of the wrong kind. -/
def refuse {α : Type} : Reader α := do
  match ← Reader.peek with
  | none => throw .truncated
  | some '[' => throw .mismatched
  | some '{' => throw .mismatched
  | some '"' => let _ ← stringAt; throw .mismatched
  | some 'n' => Reader.literal ['n', 'u', 'l', 'l']; throw .mismatched
  | some 't' => Reader.literal ['t', 'r', 'u', 'e']; throw .mismatched
  | some 'f' => Reader.literal ['f', 'a', 'l', 's', 'e']; throw .mismatched
  | some c =>
    if c = '-' || c.isDigit then
      let _ ← readNumeral
      throw .mismatched
    else throw .malformed

def readText : Reader String := do
  match ← Reader.peek with
  | some '"' => stringAt
  | _ => refuse

/-- Reads a whole number below `bound`. -/
def readNatural (bound : Nat) : Reader Nat := do
  match ← Reader.peek with
  | some c =>
    if c = '-' || c.isDigit then
      match (← readNumeral).natural? with
      | some n => if n < bound then return n else throw .mismatched
      | none => throw .mismatched
    else refuse
  | none => throw .truncated

def readFlag : Reader Bool := do
  match ← Reader.peek with
  | some 't' => Reader.literal ['t', 'r', 'u', 'e']; return true
  | some 'f' => Reader.literal ['f', 'a', 'l', 's', 'e']; return false
  | _ => refuse

def readNull : Reader Unit := do
  match ← Reader.peek with
  | some 'n' => Reader.literal ['n', 'u', 'l', 'l']
  | _ => refuse

def readAddress : Reader Ipv4 := do
  match Ipv4.ofText? (← readText) with
  | some ip => return ip
  | none => throw .mismatched

/-- Whether a list goes on. If it does, the comma is taken; if not, the closing
bracket is left in place. -/
def anotherItem (first : Bool) : Reader Bool := do
  match ← Reader.peek with
  | none => throw .truncated
  | some ']' => return false
  | some c =>
    if first then return true
    else if c = ',' then
      Reader.skip
      match ← Reader.peek with
      | none => throw .truncated
      | some ']' => throw .malformed
      | some _ => return true
    else throw .malformed

def textsStep : Bool × List String → Reader ((Bool × List String) ⊕ List String)
  | (first, taken) => do
    if ← anotherItem first then
      return .inl (false, (← readText) :: taken)
    else
      Reader.skip
      return .inr taken.reverse

def readTexts : Reader (List String) := do
  match ← Reader.peek with
  | some '[' =>
    Reader.skip
    Reader.untilDone textsStep (true, [])
  | _ => refuse

end VmLifecycle.Json
