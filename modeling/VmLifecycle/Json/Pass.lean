import VmLifecycle.Json.Numeral
import VmLifecycle.Json.StringToken

/-!
# Passing over values

A value whose content does not matter must still be well formed, to any depth.
Open brackets are kept on a list, so depth costs no recursion.
-/

namespace VmLifecycle.Json

/-- A bracket that waits for its partner. -/
inductive Bracket where
  | list
  | object
deriving DecidableEq, Repr

def Bracket.closing : Bracket → Char
  | .list => ']'
  | .object => '}'

/-- Where the walk through a value stands; `open_` holds the brackets that are
still open, innermost first. -/
inductive Walk where
  | before (pending : List Bracket)
  /-- The first item of the innermost bracket may come next, or its end. -/
  | opened (bracket : Bracket) (pending : List Bracket)
  | after (pending : List Bracket)
deriving DecidableEq, Repr

def passText : Reader Unit := do
  Reader.skip
  let rest ← passString (← get)
  set rest

def passKey : Reader Unit := do
  match ← Reader.peek with
  | none => throw .truncated
  | some '"' => passText
  | some _ => throw .malformed
  Reader.mark ':'

/-- Prepares for the next item of a bracket: in an object, takes its key. -/
def Bracket.nextItem : Bracket → Reader Unit
  | .list => pure ()
  | .object => passKey

/-- Takes a value that is not a bracket, or opens one. -/
def passStart (pending : List Bracket) : Reader Walk := do
  match ← Reader.peek with
  | none => throw .truncated
  | some '[' => Reader.skip; return .opened .list pending
  | some '{' => Reader.skip; return .opened .object pending
  | some '"' => passText; return .after pending
  | some 'n' => Reader.literal ['n', 'u', 'l', 'l']; return .after pending
  | some 't' => Reader.literal ['t', 'r', 'u', 'e']; return .after pending
  | some 'f' => Reader.literal ['f', 'a', 'l', 's', 'e']; return .after pending
  | some c =>
    if c = '-' || c.isDigit then
      let (_, rest) ← scanNumeral .malformed (← get)
      set rest
      return .after pending
    else throw .malformed

/-- One step of the walk, over at least one character unless the value has
ended. -/
def passStep : Walk → Reader (Walk ⊕ Unit)
  | .before pending => do return .inl (← passStart pending)
  | .opened bracket pending => do
    match ← Reader.peek with
    | none => throw .truncated
    | some c =>
      if c = bracket.closing then
        Reader.skip
        return .inl (.after pending)
      else
        bracket.nextItem
        return .inl (← passStart (bracket :: pending))
  | .after [] => return .inr ()
  | .after (bracket :: pending) => do
    match ← Reader.peek with
    | none => throw .truncated
    | some c =>
      if c = bracket.closing then
        Reader.skip
        return .inl (.after pending)
      else if c = ',' then
        Reader.skip
        bracket.nextItem
        return .inl (.before (bracket :: pending))
      else throw .malformed

def passValue : Reader Unit :=
  Reader.untilDone passStep (.before [])

end VmLifecycle.Json
