import VmLifecycle.Lifecycle.Query

/-!
# Provisioning a guest

The options are written to the guest and the first password is installed before
the script is run, so a run that was skipped or interrupted can be completed
from the stored options.
-/

namespace VmLifecycle.Provision

/-- Runs a command in the guest and drops its output. -/
def execute (command : String) (channel : Channel) : Attempt Unit :=
  (Program.call (.execute command channel)).outcome

/-- Stores the options in the guest and installs the first password. -/
def prepare (ctx : Context) (config : VmConfig) (options : ProvisionOptions) : Attempt Unit := do
  execute (Guest.storeOptionsCommand options) (ctx.channel config)
  execute Guest.installPasswordCommand (ctx.channel config)
  Program.log (.debug "Stored provisioning options" [("vm", .text config.name)])

def provisionGuest (ctx : Context) (config : VmConfig) (options : ProvisionOptions) :
    Attempt Unit := do
  Program.log (.info "Running provisioning script"
    [("vm", .text config.name), ("domain", .text options.domain),
     ("services", .text options.services)])
  execute (Guest.provisionCommand options) (ctx.provisionChannel config)
  Program.log (.info "Provisioning finished"
    [("vm", .text config.name), ("elapsed_ms", .elapsed)])

/-- Powers a VM on and provisions it, unless that is not wanted; the options are
stored in either case. -/
def bringUp (ctx : Context) (config : VmConfig) (start : StartOptions) :
    Action Unit := do
  tell "Starting VM..."
  (Hypervisor.powerOn config).during .start
  let options := ProvisionOptions.ofStart config start ctx.settings.defaultServices
  (prepare ctx config options).during .provision
  if start.noProvision then
    tell "VM will not be provisioned because '-n' option was supplied."
  else
    tell "Provisioning VM..."
    (provisionGuest ctx config options).during .provision
    tell (Guest.welcomeText config.domain)

/-- Completes provisioning from the options that the guest has stored. -/
def resume (ctx : Context) (config : VmConfig) : Action Unit := do
  let output ← Attempt.during .provision
    (Program.call (.commandOutput Guest.printOptionsCommand (ctx.channel config))).outcome
  match ProvisionOptions.ofStored output with
  | .error error => throw (.json error)
  | .ok none => throw .noStoredOptions
  | .ok (some options) =>
    tell "Provisioning VM..."
    (provisionGuest ctx config options).during .provision
    tell (Guest.welcomeText options.domain)

end VmLifecycle.Provision
