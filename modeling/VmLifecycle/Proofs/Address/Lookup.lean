import Mathlib.Data.List.Nodup
import VmLifecycle.Lifecycle.Start

/-!
# Looking up addresses and domains

A domain leads to a subnet, and the address of the VM in it leads back to a
domain. In a table with one entry for each subnet, and the usual VM address in
each, the way back ends where it began.
-/

namespace VmLifecycle

/-- A search for the key of an entry finds the value of the entry, for each entry,
exactly if entries with one key have one value. -/
theorem find?_key_iff {α κ β : Type} [DecidableEq κ] {entries : List α} {key : α → κ}
    {value : α → β} :
    (∀ e ∈ entries, ∃ found, entries.find? (fun e' => key e' = key e) = some found ∧
        value found = value e) ↔
      ∀ e ∈ entries, ∀ e' ∈ entries, key e = key e' → value e = value e' := by
  constructor
  · intro hfinds e he e' he' hkey
    obtain ⟨found, hfound, hvalue⟩ := hfinds e he
    obtain ⟨found', hfound', hvalue'⟩ := hfinds e' he'
    rw [hkey, hfound', Option.some.injEq] at hfound
    rw [← hvalue, ← hvalue', hfound]
  · intro hagree e he
    cases hfound : entries.find? (fun e' => key e' = key e) with
    | none => simpa using List.find?_eq_none.1 hfound e he
    | some found =>
        have hkey : key found = key e := by simpa using List.find?_some hfound
        exact ⟨found, rfl, hagree found (List.mem_of_find?_eq_some hfound) e he hkey⟩

namespace AddressTable

section

variable {t : AddressTable}

theorem domainOfAddress_iff :
    (∀ e ∈ t.entries, t.domainOfAddress e.vmAddress = e.domain) ↔
      ∀ e ∈ t.entries, ∀ e' ∈ t.entries, e.vmAddress = e'.vmAddress → e.domain = e'.domain := by
  rw [← find?_key_iff]
  refine forall₂_congr fun e he => ?_
  unfold domainOfAddress
  cases hfound : t.entries.find? (·.vmAddress = e.vmAddress) with
  | none =>
      have hmissing := List.find?_eq_none.1 hfound e he
      simp at hmissing
  | some found => simp

theorem subnetOfDomain_iff :
    (∀ e ∈ t.entries, t.subnetOfDomain e.domain = .ok e.subnet) ↔
      ∀ e ∈ t.entries, ∀ e' ∈ t.entries, e.domain = e'.domain → e.subnet = e'.subnet := by
  rw [← find?_key_iff]
  refine forall₂_congr fun e he => ?_
  unfold subnetOfDomain
  cases t.entries.find? (·.domain = e.domain) with
  | none => simp
  | some found => simp

end

/-- A table with the usual VM address in each subnet, and no subnet twice. -/
structure Uniform (t : AddressTable) : Prop where
  usual : ∀ e ∈ t.entries, ∃ subnet domain, e = .ofSubnet subnet domain
  distinct : t.subnets.Nodup

theorem uniform_builtIn : builtIn.Uniform where
  usual := by
    intro e he
    obtain ⟨n, -, rfl⟩ := List.mem_map.1 he
    exact ⟨_, _, rfl⟩
  distinct := by decide

namespace Uniform

variable {t : AddressTable} {e : AddressEntry} {domain : String} {subnet : Ipv4}

theorem vmAddress_eq (h : t.Uniform) (he : e ∈ t.entries) : e.vmAddress = e.subnet.vmAddress := by
  obtain ⟨subnet, domain, rfl⟩ := h.usual e he
  rfl

/-- Two entries with one VM address are the same. -/
theorem eq_of_vmAddress_eq {e' : AddressEntry} (h : t.Uniform) (he : e ∈ t.entries)
    (he' : e' ∈ t.entries) (haddress : e.vmAddress = e'.vmAddress) : e = e' := by
  have hsubnet : e.subnet = e'.subnet := by
    refine Ipv4.eq_of_vmAddress_eq ?_ ?_
    · rw [← h.vmAddress_eq he, ← h.vmAddress_eq he', haddress]
    · rw [hostOctet_of_mem_subnets (List.mem_map_of_mem he),
        hostOctet_of_mem_subnets (List.mem_map_of_mem he')]
  exact List.inj_on_of_nodup_map h.distinct he he' hsubnet

/-- The address of the VM in a subnet leads to the entry of the subnet. -/
theorem domainOfAddress_vmAddress (h : t.Uniform) (he : e ∈ t.entries) :
    t.domainOfAddress e.subnet.vmAddress = e.domain := by
  rw [← h.vmAddress_eq he]
  refine domainOfAddress_iff.2 (fun e he e' he' haddress => ?_) e he
  rw [h.eq_of_vmAddress_eq he he' haddress]

/-- The subnet of a domain puts its VM under this domain. -/
theorem domainOfAddress_of_subnetOfDomain (h : t.Uniform)
    (hsubnet : t.subnetOfDomain domain = .ok subnet) :
    t.domainOfAddress subnet.vmAddress = domain := by
  unfold subnetOfDomain at hsubnet
  split at hsubnet
  · rename_i e hfound
    cases hsubnet
    rw [h.domainOfAddress_vmAddress (List.mem_of_find?_eq_some hfound)]
    simpa using List.find?_some hfound
  · cases hsubnet

end Uniform

end AddressTable

/-! ## The subnet that is asked for -/

section

variable {ε ε' α β : Type} {x : Except ε α} {f : α → Except ε β} {a : α} {b : β}

theorem bind_eq_ok : (x >>= f) = .ok b ↔ ∃ a, x = .ok a ∧ f a = .ok b := by
  cases x with
  | error e => exact ⟨nofun, nofun⟩
  | ok a => exact ⟨fun h => ⟨a, rfl, h⟩, fun ⟨_, rfl, h⟩ => h⟩

theorem map_some_mapError_eq_ok {g : ε → ε'} {found : Option α} :
    (x.map some).mapError g = .ok found ↔ ∃ a, x = .ok a ∧ some a = found := by
  cases x with
  | error e => exact ⟨nofun, nofun⟩
  | ok a => simp [Except.map, Except.mapError]

end

theorem subnetOfText_eq_ok {text : String} {subnet : Ipv4} :
    subnetOfText text = .ok subnet ↔
      ∃ a, Ipv4.ofText? (Text.trim text) = some a ∧ a.subnet = subnet := by
  unfold subnetOfText
  cases Ipv4.ofText? (Text.trim text) with
  | none => simp
  | some a => simp

/-- What is asked for lies in the subnet of the address and in that of the domain. -/
theorem Context.askedSubnet_ok {ctx : Context} {start : StartOptions} {subnet : Option Ipv4}
    (h : ctx.askedSubnet start = .ok subnet) :
    (∀ text, start.ip = some text →
      ∃ a, Ipv4.ofText? (Text.trim text) = some a ∧ subnet = some a.subnet) ∧
    (∀ domain, start.domain = some domain →
      ∃ found, ctx.table.subnetOfDomain domain = .ok found ∧ subnet = some found) ∧
    (start.ip = none → start.domain = none → subnet = none) := by
  unfold Context.askedSubnet at h
  cases hip : start.ip with
  | none =>
      cases hdomain : start.domain with
      | none =>
          simp only [hip, hdomain] at h
          cases h
          simp
      | some domain =>
          simp only [hip, hdomain, bind_eq_ok, map_some_mapError_eq_ok] at h
          obtain ⟨_, ⟨⟩, _, ⟨found, hfound, rfl⟩, ⟨⟩⟩ := h
          simp [hfound]
  | some text =>
      simp only [hip, bind_eq_ok, map_some_mapError_eq_ok] at h
      obtain ⟨_, ⟨found, hfound, rfl⟩, h⟩ := h
      obtain ⟨a, ha, rfl⟩ := subnetOfText_eq_ok.1 hfound
      cases hdomain : start.domain with
      | none =>
          rw [hdomain] at h
          cases h
          simp [ha]
      | some domain =>
          simp only [hdomain, bind_eq_ok, map_some_mapError_eq_ok] at h
          obtain ⟨_, ⟨found, hfound, rfl⟩, h⟩ := h
          -- both were given, so they agree
          dsimp only at h
          split at h
          · rename_i hagree
            cases h
            simp [ha, hfound, hagree]
          · cases h

/-- An address is asked for, and a domain that is asked for with it is one of the
subnet of this address. -/
structure StartOptions.Locates (o : StartOptions) (table : AddressTable) (a : Ipv4) : Prop where
  address : ∃ text, o.ip = some text ∧ Ipv4.ofText? (Text.trim text) = some a
  domain : ∀ domain, o.domain = some domain → table.subnetOfDomain domain = .ok a.subnet

/-- An address stands for its subnet, whatever its last octet is. -/
theorem Context.askedSubnet_eq_ok {ctx : Context} {start : StartOptions} {subnet : Option Ipv4}
    {text : String} (hip : start.ip = some text) :
    ctx.askedSubnet start = .ok subnet ↔
      ∃ a, start.Locates ctx.table a ∧ subnet = some a.subnet := by
  constructor
  · intro h
    obtain ⟨haddress, hdomain, -⟩ := askedSubnet_ok h
    obtain ⟨a, ha, rfl⟩ := haddress text hip
    refine ⟨a, ⟨⟨text, hip, ha⟩, fun domain hd => ?_⟩, rfl⟩
    obtain ⟨found, hfound, hsame⟩ := hdomain domain hd
    rw [hfound, Option.some.inj hsame]
  · rintro ⟨a, ⟨⟨given, hgiven, ha⟩, hdomain⟩, rfl⟩
    obtain rfl : text = given := Option.some.inj (hip.symm.trans hgiven)
    have hsubnet : subnetOfText text = .ok a.subnet := subnetOfText_eq_ok.2 ⟨a, ha, rfl⟩
    unfold askedSubnet
    rw [hip]
    dsimp only
    rw [hsubnet]
    cases hd : start.domain with
    | none => rfl
    | some domain =>
        dsimp only
        rw [hdomain domain hd]
        exact if_pos rfl

end VmLifecycle
