import VmLifecycle.Fault
import VmLifecycle.Text.Blank

/-!
# The address table

Which subnets a VM may be put into, and under which domain it is then
reachable. The order of the entries is the order in which the picker tries
their subnets.
-/

namespace VmLifecycle

/-- One subnet with the address and the domain of the VM in it. -/
structure AddressEntry where
  subnet : Ipv4
  vmAddress : Ipv4
  domain : String
deriving DecidableEq, Repr

/-- The entry of a subnet whose VM has the usual last octet. -/
def AddressEntry.ofSubnet (subnet : Ipv4) (domain : String) : AddressEntry :=
  ⟨subnet, subnet.vmAddress, domain⟩

/-- Why a list of entries is no address table. -/
inductive TableDefect where
  | empty
  /-- The subnet is not named by its host address. -/
  | notHostAddress (subnet : Ipv4)
  /-- The VM would not be in the subnet. -/
  | outside (vmAddress subnet : Ipv4)
deriving DecidableEq, Repr

namespace TableDefect

def message : TableDefect → String
  | .empty => "address table must not be empty"
  | .notHostAddress subnet => "subnet " ++ subnet.toText ++ " must end in .1"
  | .outside vm subnet =>
    "VM address " ++ vm.toText ++ " is outside subnet " ++ subnet.toText

def fault (defect : TableDefect) : Fault :=
  .configuration defect.message

end TableDefect

def AddressEntry.defect? (e : AddressEntry) : Option TableDefect :=
  if e.subnet.d ≠ Ipv4.hostOctet then some (.notHostAddress e.subnet)
  else if !e.vmAddress.sameSubnet e.subnet then some (.outside e.vmAddress e.subnet)
  else none

/-- A table of subnets: at least one entry, and none with a defect. -/
structure AddressTable where
  entries : List AddressEntry
  nonempty : entries ≠ []
  sound : ∀ e ∈ entries, e.defect? = none

namespace AddressTable

/-- The table of the given entries, or the first defect among them. -/
def ofEntries (entries : List AddressEntry) : Except TableDefect AddressTable :=
  if nonempty : entries = [] then .error .empty
  else match found : entries.findSome? AddressEntry.defect? with
    | some defect => .error defect
    | none => .ok ⟨entries, nonempty, List.findSome?_eq_none_iff.mp found⟩

/-- The domain of the `n`-th built-in subnet; the first one has no number. -/
def builtInDomain (n : Nat) : String :=
  if n = 1 then "local.pcfdev.io"
  else "local" ++ String.ofList (Text.decimal n) ++ ".pcfdev.io"

/-- The built-in table: `192.168.11.1` to `192.168.99.1` in steps of eleven. -/
def builtIn : AddressTable where
  entries := [1, 2, 3, 4, 5, 6, 7, 8, 9].map fun n =>
    .ofSubnet ⟨192, 168, UInt8.ofNat (n * 11), Ipv4.hostOctet⟩ (builtInDomain n)
  nonempty := by simp
  sound := by simp [AddressEntry.defect?, AddressEntry.ofSubnet, Ipv4.sameSubnet, Ipv4.vmAddress]

def subnets (t : AddressTable) : List Ipv4 :=
  t.entries.map (·.subnet)

/-- Every subnet of a table is named by the host's address in it. -/
theorem hostOctet_of_mem_subnets {t : AddressTable} {subnet : Ipv4} (h : subnet ∈ t.subnets) :
    subnet.d = Ipv4.hostOctet := by
  obtain ⟨e, he, rfl⟩ := List.mem_map.1 h
  have hsound := t.sound e he
  unfold AddressEntry.defect? at hsound
  split at hsound
  · cases hsound
  · rename_i hd
    exact Decidable.not_not.1 hd

/-- The domain under which a VM address is reachable. An address outside the
table gets one that any wildcard name server resolves to it. -/
def domainOfAddress (t : AddressTable) (ip : Ipv4) : String :=
  match t.entries.find? (·.vmAddress = ip) with
  | some e => e.domain
  | none => ip.toText ++ ".xip.io"

def subnetOfDomain (t : AddressTable) (domain : String) : Except Fault Ipv4 :=
  match t.entries.find? (·.domain = domain) with
  | some e => .ok e.subnet
  | none => .error (.unknownDomain domain)

def allowsDomain (t : AddressTable) (domain : String) : Bool :=
  t.entries.any (·.domain = domain)

end AddressTable

/-- The subnet of an address that a person wrote, who may have left blanks
around it. A refusal repeats what was written. -/
def subnetOfText (s : String) : Except Fault Ipv4 :=
  match Ipv4.ofText? (Text.trim s) with
  | some ip => .ok ip.subnet
  | none => .error (.notAnAddress s)

end VmLifecycle
