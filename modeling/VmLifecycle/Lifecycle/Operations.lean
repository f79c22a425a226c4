import VmLifecycle.Lifecycle.DebugBundle
import VmLifecycle.Lifecycle.Start

/-!
# Lifecycle operations

What each operation does in each state. Where it has no effect, it is answered
with a message or refused, without asking anything of the outside.
-/

namespace VmLifecycle

def notRunningText : String := "PCF Dev is not running."

namespace Snapshot

def powerOff (config : VmConfig) : Action Unit := do
  tell "Stopping VM..."
  (Hypervisor.powerOff config).during .stop
  tell "PCF Dev is now stopped."

def stop : Snapshot → Action Unit
  | .notCreated name => do
    refuseConflict name
    tell notCreatedText
  | .existing .stopped _ => tell "PCF Dev is stopped."
  | .existing .running config => powerOff config
  | .existing .suspended _ => throw (.mustResume .stop)
  | .existing .paused _ => throw (.mustResume .stop)
  | .existing .saved _ => throw (.mustResume .stop)
  | .existing .aborted _ => tell "PCF Dev is stopped."
  | .existing .unprovisioned config => powerOff config
  | .existing .recoverable config => powerOff config
  | .invalid reason => throw (.unusable reason)

def suspend : Snapshot → Action Unit
  | .notCreated _ => throw (.unsupported .suspend .notCreated)
  | .existing .stopped _ => throw (.notRunning .suspend)
  | .existing .running config => do
    tell "Suspending VM..."
    (Hypervisor.suspend config).during .suspend
    tell "PCF Dev is now suspended."
  | .existing .suspended _ => tell "PCF Dev is already suspended."
  | .existing .paused _ => tell "PCF Dev is already suspended."
  | .existing .saved _ => tell "PCF Dev is already suspended."
  | .existing .aborted _ => throw (.notRunning .suspend)
  | .existing .unprovisioned _ => throw .unprovisioned
  | .existing .recoverable _ => throw .recoverable
  | .invalid reason => throw (.unusable reason)

/-- Restores a VM that is not executing. -/
def resume : Snapshot → Action Unit
  | .notCreated _ => throw (.unsupported .resume .notCreated)
  | .existing .stopped _ => throw (.notRunning .resume)
  | .existing .running _ => tell "PCF Dev is running."
  | .existing .suspended config => restore config
  | .existing .paused config => restore config
  | .existing .saved config => restore config
  | .existing .aborted _ => throw (.notRunning .resume)
  | .existing .unprovisioned _ => throw .unprovisioned
  | .existing .recoverable _ => throw .recoverable
  | .invalid reason => throw (.unusable reason)

/-- Removes a VM that is powered off or saved. -/
def remove (config : VmConfig) : Action Unit := do
  tell "Destroying VM..."
  (Hypervisor.unregister config).during .destroy
  tell "PCF Dev VM has been destroyed."

/-- Removes a VM. One that runs and can be reached is powered off first. -/
def destroy : Snapshot → Action Unit
  | .notCreated _ => tell notCreatedText
  | .existing .stopped config => remove config
  | .existing .running config => do
    tell "Destroying VM..."
    (Hypervisor.powerOff config).during .destroy
    (Hypervisor.unregister config).during .destroy
    tell "PCF Dev VM has been destroyed."
  | .existing .suspended config => remove config
  | .existing .paused config => remove config
  | .existing .saved config => remove config
  | .existing .aborted config => remove config
  | .existing .unprovisioned _ => throw (.unsupported .destroy (.existing .unprovisioned))
  | .existing .recoverable _ => throw (.unsupported .destroy (.existing .recoverable))
  | .invalid reason => throw (.unusable reason)

def provision (ctx : Context) : Snapshot → Action Unit
  | .existing .unprovisioned config => Provision.resume ctx config
  | .invalid reason => throw (.unusable reason)
  | s => throw (.unsupported .provision s.stateName)

def certificateWarning : String :=
  "***Warning: a CA certificate generated by PCF Dev was inserted into your OS certificate " ++
    "store. To remove this certificate, run: cf dev untrust***"

/-- Makes the host trust the certificate authority of the platform. -/
def trust (ctx : Context) : Snapshot → Action Unit
  | .existing .running config => do
    let pem ← Attempt.asAction (Program.call
      (.commandOutput Guest.printCertificateCommand (ctx.channel config))).outcome
    (Program.call (.storeCertificate pem)).outcome
    Program.log (.info "Trusted PCF Dev CA certificate" [("vm", .text config.name)])
    tell certificateWarning
  | .invalid reason => throw (.unusable reason)
  | _ => tell notRunningText

/-- Logs the command line client of the platform in. -/
def target : Snapshot → Action Unit
  | .existing .running config => do
    let api := "https://api." ++ config.domain
    (Program.call
      (.logIn api Guest.adminUser Guest.adminPassword Guest.organisation)).outcome
    tell ("Successfully logged in to " ++ api ++ " as " ++ Guest.adminUser ++ ".")
  | .invalid reason => throw (.unusable reason)
  | _ => tell notRunningText

def openSession (ctx : Context) (config : VmConfig) : Action Unit :=
  Attempt.asAction (Program.call (.openSession (ctx.channel config))).outcome

/-- Opens a session in the guest of a VM that can be reached. -/
def ssh (ctx : Context) : Snapshot → Action Unit
  | .existing .running config => openSession ctx config
  | .existing .unprovisioned config => openSession ctx config
  | .invalid reason => throw (.unusable reason)
  | _ => tell notRunningText

def debugLogs (ctx : Context) (dir : String) : Snapshot → Action Unit
  | .existing .running config => DebugBundle.gather ctx config dir true
  | .existing .unprovisioned config => DebugBundle.gather ctx config dir true
  | .existing .recoverable config => DebugBundle.gather ctx config dir false
  | .notCreated _ => tell notCreatedText
  | .invalid reason => throw (.unusable reason)
  | _ => tell notRunningText

end Snapshot

end VmLifecycle
