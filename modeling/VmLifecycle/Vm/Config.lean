import VmLifecycle.Json.Record
import VmLifecycle.Text.Quoted

/-!
# Configuration of an existing VM

What the hypervisor knows about a VM that matters to its operations. A
configuration is put together once for each query and never changed.
-/

namespace VmLifecycle

/-- An existing VM, as the hypervisor describes it. -/
structure VmConfig where
  name : String
  ip : Ipv4
  domain : String
  /-- Port of the host that leads to SSH in the guest. -/
  sshPort : UInt16
  /-- Memory in MB. -/
  memory : UInt64
  cpus : UInt32
deriving DecidableEq, Repr

namespace VmConfig

instance : Json.Record VmConfig where
  members :=
    [⟨"name", .text⟩, ⟨"ip", .address⟩, ⟨"domain", .text⟩, ⟨"ssh_port", .word16⟩,
     ⟨"memory_mb", .word64⟩, ⟨"cpus", .word32⟩]
  toRow c := (c.name, c.ip, c.domain, c.sshPort, c.memory, c.cpus, ())
  ofRow := fun (name, ip, domain, sshPort, memory, cpus, ()) =>
    ⟨name, ip, domain, sshPort, memory, cpus⟩

def describe (c : VmConfig) : String :=
  "VmConfig \x7b name: " ++ Text.quoted c.name ++ ", ip: " ++ c.ip.toText ++
    ", domain: " ++ Text.quoted c.domain ++
    ", ssh_port: " ++ String.ofList (Text.decimal c.sshPort.toNat) ++
    ", memory_mb: " ++ String.ofList (Text.decimal c.memory.toNat) ++
    ", cpus: " ++ String.ofList (Text.decimal c.cpus.toNat) ++ " \x7d"

end VmConfig

end VmLifecycle
