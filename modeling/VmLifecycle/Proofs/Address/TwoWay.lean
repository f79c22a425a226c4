import VmLifecycle.Proofs.Address.Canonical
import VmLifecycle.Proofs.Network.FirstFit

/-!
# The address table as a two-way table

Four lookups lead from one column of the table to another. Two of them search the
table for the first entry with a key, so they lead back from every entry only if
entries with one key agree. The other two do not search: they take the subnet off an
address, and put the usual address into a subnet. That a table is accepted settles the
first of these and none of the others.
-/

namespace VmLifecycle

namespace AddressTable

variable {t : AddressTable} {e : AddressEntry}

theorem ofEntries_eq_ok {entries : List AddressEntry} :
    ofEntries entries = .ok t ↔ entries = t.entries := by
  constructor
  · intro h
    unfold ofEntries at h
    split at h
    · cases h
    split at h
    · cases h
    · cases h
      rfl
  · rintro rfl
    unfold ofEntries
    rw [dif_neg t.nonempty]
    split
    · rename_i defect hdefect
      obtain ⟨e, he, hfound⟩ := List.exists_of_findSome?_eq_some hdefect
      rw [t.sound e he] at hfound
      cases hfound
    · rfl

/-- The VM of an entry is in the subnet of the entry. -/
theorem subnet_vmAddress (he : e ∈ t.entries) : e.vmAddress.subnet = e.subnet := by
  have hhost : e.subnet.d = Ipv4.hostOctet := hostOctet_of_mem_subnets (List.mem_map_of_mem he)
  have hsound := t.sound e he
  unfold AddressEntry.defect? at hsound
  rw [if_neg (not_not_intro hhost)] at hsound
  split at hsound
  · cases hsound
  · rename_i hsame
    obtain ⟨⟨subnet, b, c, d⟩, vm, domain⟩ := e
    simp_all [Ipv4.sameSubnet, Ipv4.subnet]

/-- The usual address in the subnet of an entry is that of its VM exactly if this has
the usual last octet. -/
theorem vmAddress_subnet_iff (he : e ∈ t.entries) :
    e.subnet.vmAddress = e.vmAddress ↔ e.vmAddress.d = Ipv4.vmOctet := by
  rw [← subnet_vmAddress he]
  show e.vmAddress.vmAddress = e.vmAddress ↔ _
  exact Ipv4.vmAddress_eq_self

/-- Each lookup leads from an entry to the same entry. -/
structure TwoWay (t : AddressTable) : Prop where
  vmAddress : ∀ e ∈ t.entries, e.subnet.vmAddress = e.vmAddress
  domain : ∀ e ∈ t.entries, t.domainOfAddress e.vmAddress = e.domain
  ofDomain : ∀ e ∈ t.entries, t.subnetOfDomain e.domain = .ok e.subnet
  ofAddress : ∀ e ∈ t.entries, subnetOfText e.vmAddress.toText = .ok e.subnet

theorem twoWay_iff : t.TwoWay ↔
    (∀ e ∈ t.entries, e.vmAddress.d = Ipv4.vmOctet) ∧
      ∀ e ∈ t.entries, ∀ e' ∈ t.entries, e.subnet = e'.subnet ↔ e.domain = e'.domain := by
  constructor
  · intro htable
    refine ⟨fun e he => (vmAddress_subnet_iff he).1 (htable.vmAddress e he),
      fun e he e' he' => ⟨fun hsubnet => ?_, fun hdomain => ?_⟩⟩
    · refine domainOfAddress_iff.1 htable.domain e he e' he' ?_
      rw [← htable.vmAddress e he, ← htable.vmAddress e' he', hsubnet]
    · exact subnetOfDomain_iff.1 htable.ofDomain e he e' he' hdomain
  · rintro ⟨hoctet, hagree⟩
    refine ⟨fun e he => (vmAddress_subnet_iff he).2 (hoctet e he),
      domainOfAddress_iff.2 fun e he e' he' haddress => ?_,
      subnetOfDomain_iff.2 fun e he e' he' => (hagree e he e' he').2, fun e he => ?_⟩
    · -- one address is in one subnet
      refine (hagree e he e' he').1 ?_
      rw [← subnet_vmAddress he, ← subnet_vmAddress he', haddress]
    · rw [subnetOfText_toText, subnet_vmAddress he]

namespace TwoWay

/-- From a domain that is allowed to its subnet, to the VM in it, and back. -/
theorem domainOfAddress_of_allowsDomain (htable : t.TwoWay) {domain : String}
    (h : t.allowsDomain domain = true) :
    ∃ subnet, t.subnetOfDomain domain = .ok subnet ∧
      t.domainOfAddress subnet.vmAddress = domain := by
  obtain ⟨e, he, hdomain⟩ := List.any_eq_true.1 h
  obtain rfl : e.domain = domain := by simpa using hdomain
  refine ⟨e.subnet, htable.ofDomain e he, ?_⟩
  rw [htable.vmAddress e he, htable.domain e he]

/-- The picker probes the address that the table has for the VM of a subnet. -/
theorem only_choose (htable : t.TwoWay) {requested : Option Ipv4} {candidates : List Interface}
    (hrequested : ∀ subnet, requested = some subnet → subnet ∈ t.subnets) :
    Program.Only (fun call => ∀ ip, call = .probe ip → ∃ e ∈ t.entries, e.vmAddress = ip ∧
      ∀ subnet, requested = some subnet → e.subnet = subnet)
      (Selection.choose t requested candidates).run := by
  cases requested with
  | none =>
      refine Selection.only_available nofun fun subnet hsubnet => ?_
      obtain ⟨e, he, rfl⟩ := List.mem_map.1 hsubnet
      rintro ip ⟨⟩
      exact ⟨e, he, (htable.vmAddress e he).symm, nofun⟩
  | some subnet =>
      obtain ⟨e, he, rfl⟩ := List.mem_map.1 (hrequested subnet rfl)
      refine Selection.only_inRequested nofun ?_
      rintro ip ⟨⟩
      refine ⟨e, he, (htable.vmAddress e he).symm, ?_⟩
      rintro _ ⟨⟩
      rfl

end TwoWay

/-- The lookups of a table lead from each of its entries to the same entry exactly if
the VM has the usual last octet in each, and entries have one domain just when they
have one subnet. All that makes a table accepted is enough for one of the four
lookups, that of a subnet by an address. In a two-way table a domain that is allowed
comes back by its subnet and the VM's address, and the address that is probed for a
subnet is the one that the table has for its VM. -/
theorem twoWay_of_entries (t : AddressTable) :
    (∀ entries, ofEntries entries = .ok t ↔ entries = t.entries) ∧
    (t.TwoWay ↔ (∀ e ∈ t.entries, e.vmAddress.d = Ipv4.vmOctet) ∧
      ∀ e ∈ t.entries, ∀ e' ∈ t.entries, e.subnet = e'.subnet ↔ e.domain = e'.domain) ∧
    (∀ e ∈ t.entries, subnetOfText e.vmAddress.toText = .ok e.subnet) ∧
    (t.TwoWay → ∀ domain, t.allowsDomain domain = true →
      ∃ subnet, t.subnetOfDomain domain = .ok subnet ∧
        t.domainOfAddress subnet.vmAddress = domain) ∧
    (t.TwoWay → ∀ requested, (∀ subnet, requested = some subnet → subnet ∈ t.subnets) →
      ∀ candidates trace r, Program.Runs (Selection.choose t requested candidates).run trace r →
        ∀ ip reply, ⟨.probe ip, reply⟩ ∈ trace → ∃ e ∈ t.entries, e.vmAddress = ip ∧
          ∀ subnet, requested = some subnet → e.subnet = subnet) := by
  refine ⟨fun entries => ofEntries_eq_ok, twoWay_iff, fun e he => ?_,
    fun htable domain h => htable.domainOfAddress_of_allowsDomain h, ?_⟩
  · rw [subnetOfText_toText, subnet_vmAddress he]
  · intro htable requested hrequested candidates trace r run ip reply hmem
    have hprobed := (htable.only_choose hrequested).of_runs run hmem
    exact hprobed ip rfl

/-- The built-in table is two-way. -/
theorem twoWay_builtIn : builtIn.TwoWay ∧
    ∃ subnet, builtIn.subnetOfDomain "local3.pcfdev.io" = .ok subnet ∧
      builtIn.domainOfAddress subnet.vmAddress = "local3.pcfdev.io" := by
  obtain ⟨-, hiff, -, hback, -⟩ := twoWay_of_entries builtIn
  have htable : builtIn.TwoWay := hiff.2 (by decide +kernel)
  exact ⟨htable, hback htable "local3.pcfdev.io" (by decide +kernel)⟩

/-- A table is accepted in which one VM does not have the usual octet, two subnets have
one domain and two entries one subnet. -/
theorem not_twoWay_of_shared_domain :
    let hidden : AddressEntry := ⟨⟨10, 0, 0, 1⟩, ⟨10, 0, 0, 12⟩, "a.example"⟩
    let same : AddressEntry := .ofSubnet ⟨10, 0, 1, 1⟩ "a.example"
    let again : AddressEntry := .ofSubnet ⟨10, 0, 1, 1⟩ "b.example"
    ∃ t, ofEntries [hidden, same, again] = .ok t ∧ hidden ∈ t.entries ∧ same ∈ t.entries ∧
      again ∈ t.entries ∧ hidden.subnet.vmAddress ≠ hidden.vmAddress ∧
      t.subnetOfDomain same.domain ≠ .ok same.subnet ∧
      t.domainOfAddress again.vmAddress ≠ again.domain := by
  intro hidden same again
  refine ⟨⟨[hidden, same, again], by decide, by decide⟩, ofEntries_eq_ok.2 rfl, ?_⟩
  decide +kernel

end AddressTable

end VmLifecycle
