import VmLifecycle.Proofs.Network.FirstFit

/-!
# Collisions of a selected adapter

When the adapter selected for a new VM is safe to use: its address is unique on
the host, a new adapter gets an address that nobody has, and a subnet with a
known adapter is handed out only if no VM answers there.

The first fit keeps all this but for one case. A subnet whose adapter is known
to the hypervisor and missing among the interfaces of the host, with a live VM
behind it, counts as unused, and a second adapter is planned in it.
-/

namespace VmLifecycle.Selection

open Program (Runs runs_done runs_run_bind_ok runs_run_call_bind_ok runs_run_log_bind)

variable {candidates host : List Interface} {table : AddressTable}

/-- A selection that gets in nobody's way, as far as the two lists and the
answers to the probes can tell. -/
structure CollisionFree (candidates host : List Interface) (probes : List Exchange)
    (selection : Selection) : Prop where
  /-- No two interfaces of the host share the address. -/
  unique : countAt host selection.interface.ip ≤ 1
  /-- A new adapter gets an address that no adapter has. -/
  unclaimed : selection.reused = false →
    countAt candidates selection.interface.ip = 0 ∧ countAt host selection.interface.ip = 0
  /-- Behind a known adapter there is no VM. -/
  idle : countAt candidates selection.interface.ip ≠ 0 →
    ⟨.probe selection.interface.ip.vmAddress, .ok false⟩ ∈ probes

/-- A VM that answers in a subnet whose adapter only the hypervisor lists. -/
structure HiddenVm (candidates host : List Interface) (probes : List Exchange)
    (subnet : Ipv4) : Prop where
  listed : countAt candidates subnet ≠ 0
  unseen : countAt host subnet = 0
  alive : ⟨.probe subnet.vmAddress, .ok true⟩ ∈ probes

theorem find?_eq_none_iff_countAt {subnet : Ipv4} :
    candidates.find? (·.ip = subnet) = none ↔ countAt candidates subnet = 0 := by
  rw [List.find?_eq_none, countAt, List.countP_eq_zero]

/-- The walk over a table never probes the address of another subnet of it. -/
theorem mem_passed_ne {before after : List Ipv4} {subnet : Ipv4} {passed : List Exchange}
    (hsubnets : table.subnets = before ++ subnet :: after)
    (run : Runs (firstFit? candidates host before).run passed (some (.ok none)))
    (hfree : countAt host subnet = 0) :
    ⟨.probe subnet.vmAddress, .ok true⟩ ∉ passed := by
  intro hx
  obtain ⟨s, hs, hprobe, hused⟩ := probe_of_runs_firstFit?_none run hx
  have haddress : subnet.vmAddress = s.vmAddress := by
    have hcall := congrArg Exchange.call hprobe
    simpa using hcall
  -- the VM's address fixes a subnet but for the last octet, which is the same in
  -- every subnet of a table
  have hoctet : subnet.d = s.d := by
    rw [AddressTable.hostOctet_of_mem_subnets (t := table) (by simp [hsubnets]),
      AddressTable.hostOctet_of_mem_subnets (t := table) (by simp [hsubnets, hs])]
  have hsame : subnet = s := Ipv4.eq_of_vmAddress_eq haddress hoctet
  exact hused (hsame ▸ hfree)

/-- A selection lists the interfaces of the host, passes over subnets where no
hidden VM can be, and ends with the trial of the subnet that it is in. -/
theorem split_of_runs_choose {requested : Option Ipv4} {trace : List Exchange}
    {selection : Selection}
    (run : Runs (choose table requested candidates).run trace (some (.ok selection))) :
    ∃ host passed last, trace = ⟨.hostInterfaces, .ok host⟩ :: (passed ++ last) ∧
      (countAt host selection.interface.ip = 0 →
        ⟨.probe selection.interface.ip.vmAddress, .ok true⟩ ∉ passed) ∧
      Runs (inSubnet? selection.interface.ip candidates host).run last
        (some (.ok (some selection))) := by
  cases requested with
  | some subnet =>
      obtain ⟨_, host, probes, rfl, rfl, htrial⟩ := runs_run_call_bind_ok.1 run
      obtain ⟨found, first, second, rfl, hfirst, hsecond⟩ := runs_run_bind_ok.1 htrial
      cases found with
      | none => cases (runs_done.1 hsecond).2
      | some found =>
          obtain ⟨rfl, hresult⟩ := runs_done.1 hsecond
          cases hresult
          have hip := (offer_of_runs_inSubnet? hfirst).1
          exact ⟨host, [], first, by simp, by simp, hip ▸ hfirst⟩
  | none =>
      obtain ⟨_, host, probes, rfl, rfl, hlog⟩ := runs_run_call_bind_ok.1 run
      rw [runs_run_log_bind, runs_run_bind_ok] at hlog
      obtain ⟨found, first, second, rfl, hfirst, hsecond⟩ := hlog
      cases found with
      | none => cases (runs_done.1 hsecond).2
      | some found =>
          obtain ⟨rfl, hresult⟩ := runs_done.1 hsecond
          cases hresult
          obtain ⟨before, subnet, after, passed, last, hsubnets, rfl, hpassed, hlast⟩ :=
            split_of_runs_firstFit?_some hfirst
          obtain rfl := (offer_of_runs_inSubnet? hlast).1
          exact ⟨host, passed, last, by simp, mem_passed_ne hsubnets hpassed, hlast⟩

/-- Every selection is unique on the host, and a new adapter avoids all the
interfaces of the host. It is free of collisions exactly unless a VM hides in
its subnet: then it plans a second adapter in front of that VM. -/
theorem collisionFree_iff {requested : Option Ipv4} {trace : List Exchange}
    {selection : Selection}
    (run : Runs (choose table requested candidates).run trace (some (.ok selection))) :
    ∃ host probes, trace = ⟨.hostInterfaces, .ok host⟩ :: probes ∧
      countAt host selection.interface.ip ≤ 1 ∧
      (selection.reused = false → countAt host selection.interface.ip = 0) ∧
      (CollisionFree candidates host probes selection ↔
        ¬ HiddenVm candidates host probes selection.interface.ip) := by
  obtain ⟨host, passed, last, rfl, hpassed, hlast⟩ := split_of_runs_choose run
  refine ⟨host, passed ++ last, rfl, ?_⟩
  obtain ⟨-, ⟨hreused, hfound, hunique, rfl⟩ | ⟨hnew, hfree, hlast⟩⟩ :=
    offer_of_runs_inSubnet? hlast
  · -- taken over: the one probe of the subnet was answered by nobody
    refine ⟨hunique, by simp [hreused], ?_⟩
    refine iff_of_true ⟨hunique, by simp [hreused], fun _ => by simp⟩ ?_
    rintro ⟨-, hunseen, halive⟩
    rcases List.mem_append.1 halive with halive | halive
    · exact hpassed hunseen halive
    · simp at halive
  · refine ⟨by omega, fun _ => hfree, ?_⟩
    rcases hlast with ⟨hfound, rfl⟩ | ⟨hfound, rfl⟩
    · -- a new adapter, and none was known
      have hunknown := find?_eq_none_iff_countAt.1 hfound
      exact iff_of_true ⟨by omega, fun _ => ⟨hunknown, hfree⟩, fun h => absurd hunknown h⟩
        fun hidden => hidden.listed hunknown
    · -- a new adapter in front of a live VM
      have hknown : countAt candidates selection.interface.ip ≠ 0 := by
        intro hzero
        rw [find?_eq_none_iff_countAt.2 hzero] at hfound
        cases hfound
      refine iff_of_false (fun h => hknown (h.unclaimed hnew).1) (fun h => h ?_)
      exact ⟨hknown, hfree, by simp⟩

/-- The host has another interface in the first subnet, and the idle adapter of
the second is taken over. -/
theorem collisionFree_of_idle_adapter :
    let host : List Interface :=
      [.present "en5" ⟨192, 168, 11, 1⟩, .present "vboxnet0" ⟨192, 168, 22, 1⟩]
    let selection : Selection := ⟨.present "vboxnet0" ⟨192, 168, 22, 1⟩, true⟩
    Runs (choose .builtIn none [selection.interface]).run
        [⟨.hostInterfaces, .ok host⟩, ⟨.probe ⟨192, 168, 22, 11⟩, .ok false⟩]
        (some (.ok selection)) ∧
      CollisionFree [selection.interface] host [⟨.probe ⟨192, 168, 22, 11⟩, .ok false⟩]
        selection := by
  intro host selection
  have run : Runs (choose .builtIn none [selection.interface]).run
      [⟨.hostInterfaces, .ok host⟩, ⟨.probe ⟨192, 168, 22, 11⟩, .ok false⟩]
      (some (.ok selection)) :=
    .ask _ (.note (.ask _ (.note (.done _))))
  obtain ⟨_, probes, htrace, -, -, hiff⟩ := collisionFree_iff run
  cases htrace
  exact ⟨run, hiff.2 fun hidden => absurd hidden.unseen (by decide)⟩

/-- The hypervisor lists an adapter that the host does not, a VM answers behind
it, and the subnet is handed out for a second adapter all the same. -/
theorem collides_in_front_of_hidden_vm :
    Runs (choose .builtIn (some ⟨192, 168, 44, 1⟩) [.present "vboxnet0" ⟨192, 168, 44, 1⟩]).run
        [⟨.hostInterfaces, .ok []⟩, ⟨.probe ⟨192, 168, 44, 11⟩, .ok true⟩]
        (some (.ok ⟨.planned ⟨192, 168, 44, 1⟩, false⟩)) ∧
      ¬ CollisionFree [.present "vboxnet0" ⟨192, 168, 44, 1⟩] []
        [⟨.probe ⟨192, 168, 44, 11⟩, .ok true⟩] ⟨.planned ⟨192, 168, 44, 1⟩, false⟩ := by
  refine ⟨.ask _ (.ask _ (.note (.note (.done _)))), fun h => ?_⟩
  have hunknown : countAt [.present "vboxnet0" ⟨192, 168, 44, 1⟩] ⟨192, 168, 44, 1⟩ = 0 :=
    (h.unclaimed rfl).1
  exact absurd hunknown (by decide)

end VmLifecycle.Selection
