import VmLifecycle.Network.Selection
import VmLifecycle.Provision.Commands
import VmLifecycle.Vm.Name

/-!
# Operations of the hypervisor

What takes more than one call to the hypervisor: reading the configuration of a
VM, looking for another VM that runs, registering a VM from an image with its
network, and removing all VMs of the platform.
-/

namespace VmLifecycle.Hypervisor

def isRegistered (name : String) : Attempt Bool :=
  (Program.call (.isRegistered name)).outcome

def runState (name : String) : Attempt RunState :=
  (Program.call (.runState name)).outcome

def configuration (table : AddressTable) (name : String) : Attempt VmConfig := do
  let ip ← (Program.call (.vmAddress name)).outcome
  let port ← (Program.call (.forwardedPort name Guest.sshRule)).outcome
  let resources ← (Program.call (.resources name)).outcome
  return ⟨name, ip, table.domainOfAddress ip, port, resources.memory, resources.cpus⟩

/-- Whether one of `others` that is a platform VM and not `name` is running. -/
def conflictAmong (name : String) : List String → Attempt Bool
  | [] => return false
  | other :: others => do
    if other = name || !VmName.inFamily other then conflictAmong name others
    else if ← (Program.call (.isRunning other)).outcome then
      Program.log (.warn "Conflicting VM is running"
        [("vm", .text name), ("conflicting", .text other)])
      return true
    else conflictAmong name others

def conflictPresent (name : String) : Attempt Bool := do
  conflictAmong name (← (Program.call .registered).outcome)

/-- What a new VM is to be given. -/
structure NewVm where
  resources : Resources
  /-- The subnet asked for; any that fits if none. -/
  subnet : Option Ipv4
deriving DecidableEq, Repr

/-- The name of the selected adapter, which is created first if need be. -/
def adapterName (name : String) (interface : Interface) : Attempt String := do
  if interface.isPresent then return interface.name
  else
    let created ← (Program.call (.createAdapter interface.ip)).outcome
    Program.log (.debug "Created host-only interface"
      [("vm", .text name), ("interface", .text created), ("ip", .text interface.ip.toText)])
    return created

/-- Sets up a VM that has just been registered. Gives the port of the host that
leads to it. -/
def setUp (name adapter : String) (spec : NewVm) : Attempt UInt16 := do
  (Program.call (.setResources name spec.resources)).outcome
  (Program.call (.attachAdapter adapter name)).outcome
  let port ← (Program.call .unusedPort).outcome
  (Program.call (.addForwarding name Guest.sshRule port Guest.sshPort)).outcome
  return port

/-- Takes back a registration whose setup met `fault`. What becomes of the
removal is only logged. -/
def abandon {α : Type} (name : String) (fault : Fault) : Attempt α := do
  Program.log (.error "Import failed, removing VM"
    [("vm", .text name), ("error", .text fault.message)])
  match ← Attempt.caught (Program.call (.unregister name)).outcome with
  | .ok () => throw fault
  | .error other =>
    Program.log (.warn "Failed to remove partial VM"
      [("vm", .text name), ("error", .text other.message)])
    throw fault

/-- Registers a VM from an image and connects it to a host-only network. -/
def register (table : AddressTable) (name image : String) (spec : NewVm) :
    Attempt Unit := do
  Program.log (.info "Importing VM"
    [("vm", .text name), ("image", .text image),
     ("memory_mb", .number spec.resources.memory.toNat),
     ("cpus", .number spec.resources.cpus.toNat)])
  let candidates ← (Program.call .hostOnlyAdapters).outcome
  let selection ← Selection.choose table spec.subnet candidates
  let adapter ← adapterName name selection.interface
  (Program.call (.register name image)).outcome
  match ← Attempt.caught (setUp name adapter spec) with
  | .error fault => abandon name fault
  | .ok port =>
    Program.log (.info "VM imported"
      [("vm", .text name), ("interface", .text adapter),
       ("ip", .text selection.interface.ip.vmAddress.toText),
       ("ssh_port", .freshPort port), ("elapsed_ms", .elapsed)])

def powerOn (config : VmConfig) : Attempt Unit := do
  Program.log (.info "Starting VM" [("vm", .text config.name), ("ip", .text config.ip.toText)])
  (Program.call (.powerOn config.name)).outcome

def powerOff (config : VmConfig) : Attempt Unit := do
  Program.log (.info "Stopping VM" [("vm", .text config.name)])
  (Program.call (.powerOff config.name)).outcome

def suspend (config : VmConfig) : Attempt Unit := do
  Program.log (.info "Suspending VM" [("vm", .text config.name)])
  (Program.call (.suspend config.name)).outcome

def resume (config : VmConfig) : Attempt Unit := do
  Program.log (.info "Resuming VM" [("vm", .text config.name)])
  (Program.call (.resume config.name)).outcome

def unregister (config : VmConfig) : Attempt Unit := do
  Program.log (.info "Destroying VM" [("vm", .text config.name)])
  (Program.call (.unregister config.name)).outcome

/-- Removes a VM in whatever state it is, powering it off first if it runs. -/
def removeVm (name : String) : Attempt Unit := do
  if ← (Program.call (.isRunning name)).outcome then
    (Program.call (.powerOff name)).outcome
  (Program.call (.unregister name)).outcome

/-- Removes the platform VMs of a list and goes on after a fault. Gives the
first fault, which is `first` if there was one before. -/
def removeEach (first : Option Fault) : List String → Program (Option Fault)
  | [] => return first
  | name :: names => do
    if !VmName.inFamily name then removeEach first names
    else
      Program.log (.info "Destroying PCF Dev VM" [("vm", .text name)])
      match ← (removeVm name).run with
      | .ok () => removeEach first names
      | .error fault =>
        Program.log (.error "Failed to destroy VM"
          [("vm", .text name), ("error", .text fault.message)])
        removeEach (first <|> some fault) names

/-- Removes every platform VM that is registered, or gives the first fault. -/
def destroyAll : Attempt Unit := do
  let names ← (Program.call .registered).outcome
  match ← removeEach none names with
  | some fault => throw fault
  | none => return ()

end VmLifecycle.Hypervisor
