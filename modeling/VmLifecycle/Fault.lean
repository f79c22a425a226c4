import VmLifecycle.Address.Ipv4
import VmLifecycle.Duration

/-!
# Faults

What the hypervisor, the guest, the host's network and the subnet allocator
report when they cannot do what was asked. A fault is a cause; its wording is
given by `Fault.message` alone.
-/

namespace VmLifecycle

/-- Why a file or a port of the host could not be used. -/
inductive IoError where
  | notFound
  | notADirectory
  /-- Any other reason, in the words of whoever met it. -/
  | other (text : String)
deriving DecidableEq, Repr

def IoError.message : IoError → String
  | .notFound => "No such file or directory (os error 2)"
  | .notADirectory => "Not a directory (os error 20)"
  | .other text => text

/-- A failure below the level of lifecycle operations. -/
inductive Fault where
  | hypervisor (text : String)
  | ssh (text : String)
  | notAnAddress (text : String)
  | unknownDomain (domain : String)
  | subnetTaken (subnet : Ipv4)
  | noSubnetLeft
  | configuration (text : String)
  | io (error : IoError)
  | timeout (after : Duration)
deriving DecidableEq, Repr

namespace Fault

def message : Fault → String
  | .hypervisor text => text
  | .ssh text => "ssh: " ++ text
  | .notAnAddress text => text ++ " is not a supported IP address"
  | .unknownDomain domain => domain ++ " is not one of the allowed domains"
  | .subnetTaken subnet => "subnet " ++ subnet.toText ++ " is already in use on this host"
  | .noSubnetLeft => "all allowed network interfaces are currently taken"
  | .configuration text => "configuration error: " ++ text
  | .io error => "I/O error: " ++ error.message
  | .timeout after => "operation timed out after " ++ after.toText

/-- The error that the fault is a report of, if there is one. -/
def underlying : Fault → Option IoError
  | .io error => some error
  | _ => none

end Fault

end VmLifecycle
