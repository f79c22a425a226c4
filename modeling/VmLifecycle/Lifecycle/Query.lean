import VmLifecycle.Hypervisor
import VmLifecycle.Lifecycle.Snapshot

/-!
# Asking for a VM

A VM is judged by what the hypervisor says of it, and a running one by what its
guest says. Nothing is kept between two queries.
-/

namespace VmLifecycle

/-- What operations need to know besides the VM. -/
structure Context where
  settings : Settings
  table : AddressTable

namespace Context

/-- The way into a guest for short commands. -/
def channel (ctx : Context) (config : VmConfig) : Channel :=
  ⟨Guest.sshAddress, config.sshPort, ctx.settings.sshTimeout⟩

/-- The way into a guest for the provisioning script. -/
def provisionChannel (ctx : Context) (config : VmConfig) : Channel :=
  ⟨Guest.sshAddress, config.sshPort, ctx.settings.provisionTimeout⟩

/-- The state of a VM that runs: usable only once its guest reports that
provisioning is done. -/
def interpretRunning (ctx : Context) (config : VmConfig) : Program Snapshot := do
  match ← Program.call (.commandOutput Guest.printMarkerCommand (ctx.channel config)) with
  | .ok output =>
    return .existing (if Guest.saysProvisioned output then .running else .unprovisioned) config
  | .error fault =>
    Program.log (.warn "Guest unreachable"
      [("vm", .text config.name), ("error", .text fault.message)])
    return .existing .recoverable config

def interpret (ctx : Context) (config : VmConfig) : RunState → Program Snapshot
  | .running => ctx.interpretRunning config
  | .suspended => return .existing .suspended config
  | .saved => return .existing .saved config
  | .paused => return .existing .paused config
  | .poweredOff => return .existing .stopped config
  | .aborted => return .existing .aborted config
  | .unknown text => return .invalid ("unknown VM state '" ++ text ++ "'")

def unreadable (name message : String) (fault : Fault) : Program Snapshot := do
  Program.log (.warn message [("vm", .text name), ("error", .text fault.message)])
  return .invalid fault.message

def inspect (ctx : Context) (name : String) : Program Snapshot := do
  match ← (Hypervisor.configuration ctx.table name).run with
  | .error fault => unreadable name "Failed to read VM configuration" fault
  | .ok config =>
    match ← (Hypervisor.runState name).run with
    | .error fault => unreadable name "Failed to read VM state" fault
    | .ok state =>
      let snapshot ← ctx.interpret config state
      Program.log (.debug "Classified VM"
        [("vm", .text name), ("state", .text snapshot.stateName.toText)])
      return snapshot

/-- The state of the VM called `name`. This fails only if the hypervisor cannot
say whether the VM exists. -/
def query (ctx : Context) (name : String) : Action Snapshot := do
  if ← (Hypervisor.isRegistered name).asAction then
    ctx.inspect name
  else
    Program.log (.debug "VM not created" [("vm", .text name)])
    return .notCreated name

end Context

end VmLifecycle
