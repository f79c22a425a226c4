import VmLifecycle.Lifecycle.Error
import VmLifecycle.Network.Interface
import VmLifecycle.Vm.Resources
import VmLifecycle.Vm.RunState

/-!
# Calls to the outside

Everything that operations ask of the hypervisor, the guest, the host and the
user, and the type of each answer. Operations have no other way to learn or to
change anything.
-/

namespace VmLifecycle

/-- A way into a guest: address and port on the host, and how long to wait. -/
structure Channel where
  host : String
  port : UInt16
  timeout : Duration
deriving DecidableEq, Repr

/-- A request to the outside. -/
inductive Call where
  -- the hypervisor
  | powerOn (name : String)
  | powerOff (name : String)
  | suspend (name : String)
  | resume (name : String)
  | unregister (name : String)
  | isRegistered (name : String)
  | isRunning (name : String)
  | runState (name : String)
  | vmAddress (name : String)
  | forwardedPort (name rule : String)
  | resources (name : String)
  | hostOnlyAdapters
  | createAdapter (ip : Ipv4)
  | attachAdapter (interface name : String)
  | register (name image : String)
  | setResources (name : String) (resources : Resources)
  | addForwarding (name rule : String) (hostPort guestPort : UInt16)
  | registered
  | report (name : String)
  -- the network of the host
  | hostInterfaces
  | probe (ip : Ipv4)
  | unusedPort
  -- the guest
  | execute (command : String) (channel : Channel)
  | commandOutput (command : String) (channel : Channel)
  | openSession (channel : Channel)
  -- the host
  | freeMemory
  | storeCertificate (pem : String)
  | logIn (api user password org : String)
  | timestamp
  | createDirectory (path : String)
  | writeFile (path content : String)
  -- the user
  | tell (text : String)
  | consent (question : String)
deriving DecidableEq, Repr

namespace Call

abbrev Reply : Call → Type
  | .powerOn _ => Except Fault Unit
  | .powerOff _ => Except Fault Unit
  | .suspend _ => Except Fault Unit
  | .resume _ => Except Fault Unit
  | .unregister _ => Except Fault Unit
  | .isRegistered _ => Except Fault Bool
  | .isRunning _ => Except Fault Bool
  | .runState _ => Except Fault RunState
  | .vmAddress _ => Except Fault Ipv4
  | .forwardedPort _ _ => Except Fault UInt16
  | .resources _ => Except Fault Resources
  | .hostOnlyAdapters => Except Fault (List Interface)
  | .createAdapter _ => Except Fault String
  | .attachAdapter _ _ => Except Fault Unit
  | .register _ _ => Except Fault Unit
  | .setResources _ _ => Except Fault Unit
  | .addForwarding _ _ _ _ => Except Fault Unit
  | .registered => Except Fault (List String)
  | .report _ => Except Fault String
  | .hostInterfaces => Except Fault (List Interface)
  | .probe _ => Except Fault Bool
  | .unusedPort => Except Fault UInt16
  | .execute _ _ => Except Fault Unit
  | .commandOutput _ _ => Except Fault String
  | .openSession _ => Except Fault Unit
  | .freeMemory => Except Fault UInt64
  | .storeCertificate _ => Except LifecycleError Unit
  | .logIn _ _ _ _ => Except LifecycleError Unit
  | .timestamp => String
  | .createDirectory _ => Except IoError Unit
  | .writeFile _ _ => Except IoError Unit
  | .tell _ => Unit
  | .consent _ => Bool

end Call

end VmLifecycle
