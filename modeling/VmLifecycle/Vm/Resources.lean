import VmLifecycle.Json.Record

/-!
# Resources

Memory and processors of a VM.
-/

namespace VmLifecycle

/-- What a VM is given of the host. -/
structure Resources where
  /-- Memory in MB. -/
  memory : UInt64
  cpus : UInt32
deriving DecidableEq, Repr

instance : Json.Record Resources where
  members := [⟨"memory_mb", .word64⟩, ⟨"cpus", .word32⟩]
  toRow r := (r.memory, r.cpus, ())
  ofRow := fun (memory, cpus, ()) => ⟨memory, cpus⟩

end VmLifecycle
