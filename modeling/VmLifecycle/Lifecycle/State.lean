/-!
# Lifecycle states and operations

The states in which the tool can find a VM, and the operations it offers, with
the words for them.
-/

namespace VmLifecycle

/-- The state of a VM that exists and could be read. -/
inductive Phase where
  | stopped
  | running
  | suspended
  | paused
  | saved
  | aborted
  /-- Powered on, but provisioning never completed. -/
  | unprovisioned
  /-- Powered on, but the guest does not answer. -/
  | recoverable
deriving DecidableEq, Repr

inductive StateName where
  | notCreated
  | existing (phase : Phase)
  | invalid
deriving DecidableEq, Repr

namespace StateName

def toText : StateName → String
  | .notCreated => "not created"
  | .existing .stopped => "stopped"
  | .existing .running => "running"
  | .existing .suspended => "suspended"
  | .existing .paused => "paused"
  | .existing .saved => "saved"
  | .existing .aborted => "aborted"
  | .existing .unprovisioned => "unprovisioned"
  | .existing .recoverable => "recoverable"
  | .invalid => "invalid"

def describe : StateName → String
  | .notCreated => "NotCreated"
  | .existing .stopped => "Stopped"
  | .existing .running => "Running"
  | .existing .suspended => "Suspended"
  | .existing .paused => "Paused"
  | .existing .saved => "Saved"
  | .existing .aborted => "Aborted"
  | .existing .unprovisioned => "Unprovisioned"
  | .existing .recoverable => "Recoverable"
  | .invalid => "Invalid"

/-- All states, in the order in which they are listed to users. -/
def all : List StateName :=
  [.notCreated, .existing .stopped, .existing .running, .existing .suspended, .existing .paused,
   .existing .saved, .existing .aborted, .existing .unprovisioned, .existing .recoverable,
   .invalid]

end StateName

/-- What a VM can be asked to do. -/
inductive Operation where
  | start
  | stop
  | suspend
  | resume
  | destroy
  | provision
  | trust
  | target
  | ssh
  | debugLogs
deriving DecidableEq, Repr

namespace Operation

def toText : Operation → String
  | .start => "start"
  | .stop => "stop"
  | .suspend => "suspend"
  | .resume => "resume"
  | .destroy => "destroy"
  | .provision => "provision"
  | .trust => "trust"
  | .target => "target"
  | .ssh => "ssh"
  | .debugLogs => "collect debug logs"

def all : List Operation :=
  [.start, .stop, .suspend, .resume, .destroy, .provision, .trust, .target, .ssh, .debugLogs]

end Operation

end VmLifecycle
