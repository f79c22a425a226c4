import VmLifecycle.Memory.Consent
import VmLifecycle.Provision.Run

/-!
# Starting a VM

A VM that does not exist is imported, asked for again, and started from the
state it is then found in. What may be asked of a start depends on whether the
VM exists: options that are fixed at creation are refused afterwards.
-/

namespace VmLifecycle

def notCreatedText : String := "PCF Dev VM has not been created."

/-- The subnet that the address and the domain asked for lie in, if either was
given. They must agree if both were. -/
def Context.askedSubnet (ctx : Context) (start : StartOptions) :
    Except LifecycleError (Option Ipv4) := do
  let ofIp ← match start.ip with
    | none => pure none
    | some ip => (subnetOfText ip).map some |>.mapError .vm
  let ofDomain ← match start.domain with
    | none => pure none
    | some domain => (ctx.table.subnetOfDomain domain).map some |>.mapError .vm
  match ofIp, ofDomain with
  | some a, some b =>
    if a = b then return some a
    else throw (.invalidOption
      (.addressOutsideDomain (start.ip.getD "") (start.domain.getD "")))
  | some a, none => return some a
  | none, found => return found

def Context.newResources (ctx : Context) (start : StartOptions) : Resources :=
  ⟨start.memory.getD ctx.settings.defaultMemory, start.cpus.getD ctx.settings.defaultCpus⟩

def Context.newImage (ctx : Context) (start : StartOptions) : String :=
  start.imagePath.getD ctx.settings.imagePath

namespace Snapshot

/-- Refuses to go on while another platform VM is running. -/
def refuseConflict (name : String) : Action Unit := do
  if ← (Hypervisor.conflictPresent name).asAction then throw .conflict

/-- Registers the VM called `name` as the options say. -/
def create (ctx : Context) (name : String) (start : StartOptions) : Action Unit := do
  refuseConflict name
  let subnet ← liftExcept (ctx.askedSubnet start)
  tell "Importing VM..."
  (Hypervisor.register ctx.table name (ctx.newImage start)
    ⟨ctx.newResources start, subnet⟩).during .register
  tell "PCF Dev is now imported to Virtualbox."

def restore (config : VmConfig) : Action Unit := do
  tell "Resuming VM..."
  (Hypervisor.resume config).during .resume
  tell "PCF Dev is now running."

def startExisting (ctx : Context) (start : StartOptions) (config : VmConfig) :
    Phase → Action Unit
  | .stopped => Provision.bringUp ctx config start
  | .running => tell "PCF Dev is running."
  | .suspended => restore config
  | .paused => restore config
  | .saved => restore config
  | .aborted => do
    Memory.ensure config.memory
    Provision.bringUp ctx config start
  | .unprovisioned => throw .unprovisioned
  | .recoverable => throw .recoverable

/-- Starts a VM. One that does not exist is imported and asked for again, and
so on as long as it is not found. A hypervisor that keeps what it registers
makes one import enough; `imports` bounds their number. -/
def start (ctx : Context) (start : StartOptions) : (imports : Nat) → Snapshot → Action Unit
  | _, .existing phase config => startExisting ctx start config phase
  | _, .invalid reason => throw (.unusable reason)
  | 0, .notCreated _ => (Program.unsettled : Program (Except LifecycleError Unit)).outcome
  | imports + 1, .notCreated name => do
    create ctx name start
    let snapshot ← ctx.query name
    Snapshot.start ctx start imports snapshot

def checkExisting (config : VmConfig) (start : StartOptions) (needsMemory : Bool) :
    Action Unit := do
  liftExcept start.refuseCreationOptions
  if needsMemory then Memory.ensure config.memory

def checkNew (ctx : Context) (start : StartOptions) : Action Unit := do
  liftExcept start.validate
  let memory := (ctx.newResources start).memory
  if memory < minimumMemory then throw (.invalidOption .tooLittleMemory)
  let _ ← liftExcept (ctx.askedSubnet start)
  Memory.ensure memory

/-- Checks the options of a start, asking the user if memory is short. A VM
that is paused still has its memory, and so has one that is running. -/
def checkStart (ctx : Context) (start : StartOptions) : Snapshot → Action Unit
  | .notCreated _ => checkNew ctx start
  | .existing .stopped config => checkExisting config start true
  | .existing .running config => checkExisting config start false
  | .existing .suspended config => checkExisting config start true
  | .existing .paused config => checkExisting config start false
  | .existing .saved config => checkExisting config start true
  | .existing .aborted config => checkExisting config start true
  | .existing .unprovisioned _ => throw .unprovisioned
  | .existing .recoverable _ => throw .recoverable
  | .invalid reason => throw (.unusable reason)

end Snapshot

end VmLifecycle
