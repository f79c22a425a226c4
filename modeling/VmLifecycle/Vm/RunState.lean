import VmLifecycle.Json.Scalar

/-!
# Run states

What the hypervisor says a VM is doing: the text it uses, and the JSON form,
which is the state's name or, for a state the hypervisor made up, an object
with its text.
-/

namespace VmLifecycle

inductive RunState where
  | running
  /-- Saved to disk on request. -/
  | suspended
  /-- Saved to disk without a request. -/
  | saved
  /-- Frozen in memory. -/
  | paused
  | poweredOff
  /-- Powered off without a clean shutdown. -/
  | aborted
  /-- Anything else, as the hypervisor puts it. -/
  | unknown (text : String)
deriving DecidableEq, Repr

namespace RunState

def toText : RunState → String
  | .running => "running"
  | .suspended => "suspended"
  | .saved => "saved"
  | .paused => "paused"
  | .poweredOff => "poweroff"
  | .aborted => "aborted"
  | .unknown text => text

/-- The state that a word of the hypervisor stands for. -/
def ofText : String → RunState
  | "running" => .running
  | "suspended" => .suspended
  | "saved" => .saved
  | "paused" => .paused
  | "poweroff" => .poweredOff
  | "aborted" => .aborted
  | text => .unknown text

/-- The states without a text of their own, by their names in JSON. -/
def named? : String → Option RunState
  | "Running" => some .running
  | "Suspended" => some .suspended
  | "Saved" => some .saved
  | "Paused" => some .paused
  | "PoweredOff" => some .poweredOff
  | "Aborted" => some .aborted
  | _ => none

/-- The name under which a state with a text is written. -/
def unknownName : String := "Unknown"

open Json

def write : RunState → List Char
  | .running => stringToken "Running"
  | .suspended => stringToken "Suspended"
  | .saved => stringToken "Saved"
  | .paused => stringToken "Paused"
  | .poweredOff => stringToken "PoweredOff"
  | .aborted => stringToken "Aborted"
  | .unknown text => '{' :: stringToken unknownName ++ ':' :: stringToken text ++ ['}']

/-- Reads the payload of the state called `name` from the colon on: a text for
a state that has one, null for the others. -/
def readPayload (name : String) : Reader RunState :=
  if name = unknownName then do
    Reader.mark ':'
    return .unknown (← readText)
  else
    match named? name with
    | some state => do
      Reader.mark ':'
      readNull
      return state
    | none => throw .mismatched

/-- Reads the name that a state's object begins with. Only a string can stand
there, so any other value is malformed whatever it is. -/
def readName : Reader String := do
  match ← Reader.peek with
  | none => throw .truncated
  | some '"' => stringAt
  | some _ => throw .malformed

/-- Reads a state: a name alone, or an object of one name and its payload. -/
def read : Reader RunState := do
  match ← Reader.peek with
  | none => throw .truncated
  | some '"' =>
    match named? (← stringAt) with
    | some state => return state
    | none => throw .mismatched
  | some '{' =>
    Reader.skip
    let state ← readPayload (← readName)
    Reader.mark '}'
    return state
  | some _ => throw .malformed

def encode (state : RunState) : String :=
  String.ofList state.write

def decode (text : String) : Except ReadError RunState :=
  Reader.whole read text

end RunState

end VmLifecycle
