import VmLifecycle.Address.Table
import VmLifecycle.Effect.Program

/-!
# Selecting an adapter for a new VM

First fit in the order of the address table. A subnet is taken over together
with the adapter that the hypervisor already has there, if the adapter's
address is unique on the host and nothing answers at the VM's address. A subnet
that no interface of the host uses gets a new adapter.
-/

namespace VmLifecycle

/-- The adapter chosen for a VM, and whether it was there before. -/
structure Selection where
  interface : Interface
  reused : Bool
deriving DecidableEq, Repr

namespace Selection

def countAt (interfaces : List Interface) (ip : Ipv4) : Nat :=
  interfaces.countP (·.ip = ip)

/-- A new adapter for the subnet, if no interface of the host is in it. -/
def fresh? (subnet : Ipv4) (host : List Interface) : Attempt (Option Selection) := do
  if countAt host subnet = 0 then
    Program.log (.info "Claiming unused subnet" [("subnet", .text subnet.toText)])
    return some ⟨.planned subnet, false⟩
  else return none

/-- Tries one subnet. An address that several interfaces of the host share
rules the subnet out before anything is probed. -/
def inSubnet? (subnet : Ipv4) (candidates host : List Interface) :
    Attempt (Option Selection) := do
  match candidates.find? (·.ip = subnet) with
  | none => fresh? subnet host
  | some candidate =>
    if 1 < countAt host subnet then
      Program.log (.warn "Duplicate host interfaces, skipping subnet"
        [("subnet", .text subnet.toText)])
      return none
    else if ← (Program.call (.probe subnet.vmAddress)).outcome then
      Program.log (.debug "Address in use by a live VM"
        [("subnet", .text subnet.toText), ("vm_ip", .text subnet.vmAddress.toText)])
      fresh? subnet host
    else
      Program.log (.info "Reusing idle host-only interface"
        [("subnet", .text subnet.toText), ("interface", .text candidate.name)])
      return some ⟨candidate, true⟩

def firstFit? (candidates host : List Interface) : List Ipv4 → Attempt (Option Selection)
  | [] => return none
  | subnet :: subnets => do
    match ← inSubnet? subnet candidates host with
    | some selection => return some selection
    | none => firstFit? candidates host subnets

/-- Selects the adapter for a new VM. `candidates` are the host-only adapters
that the hypervisor has. -/
def available (table : AddressTable) (candidates : List Interface) :
    Attempt Selection := do
  let host ← (Program.call .hostInterfaces).outcome
  Program.log (.debug "Selecting host-only interface"
    [("candidates", .number candidates.length), ("host_interfaces", .number host.length)])
  match ← firstFit? candidates host table.subnets with
  | some selection => return selection
  | none => throw .noSubnetLeft

/-- Selects the adapter for a new VM in the subnet that the user asked for. -/
def inRequested (subnet : Ipv4) (candidates : List Interface) : Attempt Selection := do
  let host ← (Program.call .hostInterfaces).outcome
  match ← inSubnet? subnet candidates host with
  | some selection => return selection
  | none => throw (.subnetTaken subnet)

/-- Selects the adapter for a new VM, in a certain subnet if one is given. -/
def choose (table : AddressTable) (requested : Option Ipv4) (candidates : List Interface) :
    Attempt Selection :=
  match requested with
  | some subnet => inRequested subnet candidates
  | none => available table candidates

end Selection

end VmLifecycle
