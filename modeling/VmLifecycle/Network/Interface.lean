import VmLifecycle.Json.Record

/-!
# Host-only network interfaces

Adapters through which the host reaches its VMs. An adapter either exists or is
a plan for one that has still to be created.
-/

namespace VmLifecycle

/-- A host-only adapter. -/
structure Interface where
  /-- The host's name for it; empty until it is created. -/
  name : String
  ip : Ipv4
  hardwareAddress : String
  isPresent : Bool
deriving DecidableEq, Repr

namespace Interface

instance : Json.Record Interface where
  members := [⟨"name", .text⟩, ⟨"ip", .address⟩, ⟨"hardware_address", .text⟩, ⟨"exists", .flag⟩]
  toRow i := (i.name, i.ip, i.hardwareAddress, i.isPresent, ())
  ofRow := fun (name, ip, hardwareAddress, isPresent, ()) => ⟨name, ip, hardwareAddress, isPresent⟩

def present (name : String) (ip : Ipv4) : Interface :=
  ⟨name, ip, "", true⟩

def planned (ip : Ipv4) : Interface :=
  ⟨"", ip, "", false⟩

end Interface

end VmLifecycle
