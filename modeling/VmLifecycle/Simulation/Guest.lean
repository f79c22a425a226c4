import VmLifecycle.Provision.Commands
import VmLifecycle.Simulation.World

/-!
# The simulated guest

How the guest reacts to a command: prepared faults and outputs first, then the
few commands that it understands, and an echo for all others.
-/

namespace VmLifecycle.Simulation

def occursIn (part : List Char) : List Char → Bool
  | [] => part.isEmpty
  | c :: s => part.isPrefixOf (c :: s) || occursIn part s

/-- What stands in a text before the first occurrence of `part`; `taken` holds
what was passed already, latest first. -/
def before? (part taken : List Char) : List Char → Option (List Char)
  | [] => if part.isEmpty then some taken.reverse else none
  | c :: s =>
    if part.isPrefixOf (c :: s) then some taken.reverse else before? part (c :: taken) s

/-- Undoes the escapes of a text that stood between single quotes; `taken` holds
what was passed already, latest first. -/
def unescaped (taken : List Char) : List Char → List Char
  | '\'' :: '\\' :: '\'' :: '\'' :: s => unescaped ('\'' :: taken) s
  | c :: s => unescaped (c :: taken) s
  | [] => taken.reverse

/-- The options that a command stores, if it stores any. -/
def storedBy? (command : String) : Option String :=
  let opening := "echo '".toList
  let closing := ("' | sudo tee " ++ Guest.optionsPath).toList
  let cs := command.toList
  if opening.isPrefixOf cs then
    (before? closing [] (cs.drop opening.length)).map fun text =>
      String.ofList (unescaped [] text)
  else none

def runsScript (command : String) : Bool :=
  ("sudo -H " ++ Guest.scriptPath ++ " ").toList.isPrefixOf command.toList

/-- The output of a command that the guest was not prepared for. -/
def echoed (command : String) : String :=
  "output of " ++ command

namespace World

/-- Runs a command that reaches the guest's shell. -/
def runInGuest (w : World) (command : String) : String × World :=
  if command = Guest.printMarkerCommand then
    (if w.provisioned then Guest.provisionedToken ++ "\n" else "", w)
  else if command = Guest.printOptionsCommand then (w.options.getD "", w)
  else match storedBy? command with
    | some text => (echoed command, { w with options := some text })
    | none =>
      if runsScript command then (echoed command, { w with provisioned := true })
      else (echoed command, w)

def command (w : World) (command : String) : Except Fault String × World :=
  if w.unreachable then (.error (.ssh "connection refused"), w)
  else match w.shellFaults.find? fun f => occursIn f.1.toList command.toList with
    | some (_, fault) => (.error fault, w)
    | none =>
      match w.shellOutputs.find? fun o => occursIn o.1.toList command.toList with
      | some (_, output) => (.ok output, w)
      | none =>
        let (output, w) := w.runInGuest command
        (.ok output, w)

end World

end VmLifecycle.Simulation
