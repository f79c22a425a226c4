import VmLifecycle.Lifecycle.Query

/-!
# Diagnostic bundles

A directory with what the hypervisor and, where it can be reached, the guest
have to say about a VM. A command of the guest that fails does not stop the
collection: its failure is written in place of its output.
-/

namespace VmLifecycle.DebugBundle

/-- The files that hold output of the guest, with the commands that give it. -/
def diagnostics : List (String × String) :=
  [("ifconfig.txt", "ifconfig"),
   ("routes.txt", "route -n"),
   ("resolv.conf.txt", "cat /etc/resolv.conf"),
   ("disk-usage.txt", "df -h"),
   ("processes.txt", "ps aux"),
   ("provision.log", "sudo cat /var/pcfdev/provision.log"),
   ("reset.log", "sudo cat /var/pcfdev/reset.log"),
   ("monit-summary.txt", "sudo /var/vcap/bosh/bin/monit summary")]

def failureText (command : String) (fault : Fault) : String :=
  "failed to run `" ++ command ++ "`: " ++ fault.message ++ "\n"

def writeFile (path content : String) : Action Unit :=
  ExceptT.adapt .io (Program.call (.writeFile path content)).outcome

/-- Writes the output of one command of the guest, or its failure. -/
def writeOutput (ctx : Context) (config : VmConfig) (target file command : String) :
    Action Unit := do
  match ← (Program.call (.commandOutput command (ctx.channel config)) :
      Program (Except Fault String)) with
  | .ok output => writeFile (Text.joinPath target file) output
  | .error fault =>
    Program.log (.warn "Debug command failed"
      [("vm", .text config.name), ("command", .text command), ("error", .text fault.message)])
    writeFile (Text.joinPath target file) (failureText command fault)

def writeOutputs (ctx : Context) (config : VmConfig) (target : String) :
    List (String × String) → Action Unit
  | [] => return ()
  | (file, command) :: commands => do
    writeOutput ctx config target file command
    writeOutputs ctx config target commands

/-- Writes a new bundle below `dir`. -/
def gather (ctx : Context) (config : VmConfig) (dir : String) (includeGuest : Bool) :
    Action Unit := do
  let stamp ← Program.call .timestamp
  let target := Text.joinPath dir ("pcfdev-debug-" ++ stamp)
  ExceptT.adapt .io (Program.call (.createDirectory target)).outcome
  let info ← Attempt.asAction (Program.call (.report config.name)).outcome
  writeFile (Text.joinPath target "vm-info.txt") info
  if includeGuest then writeOutputs ctx config target diagnostics
  Program.log (.info "Collected debug logs"
    [("vm", .text config.name), ("path", .text target)])
  tell ("Debug logs written to " ++ target)

end VmLifecycle.DebugBundle
