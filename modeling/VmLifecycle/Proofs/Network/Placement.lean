import VmLifecycle.Proofs.Network.FirstFit

/-!
# Where a selection places a VM

A selection is in the subnet that was asked for, or in one of the table. It is an
adapter that the hypervisor listed, or a plan for a new one.
-/

namespace VmLifecycle.Selection

open Program (Runs runs_done runs_run_bind_ok runs_run_call_bind_ok runs_run_log_bind)

variable {candidates host : List Interface} {table : AddressTable} {trace : List Exchange}
  {selection : Selection} {requested : Option Ipv4} {subnet : Ipv4}

/-- The subnets that a selection can be made in. -/
def Fits (table : AddressTable) : Option Ipv4 → Ipv4 → Prop
  | some asked, subnet => subnet = asked
  | none, subnet => subnet ∈ table.subnets

/-- A selection ends with the trial of a subnet that fits. -/
theorem trial_of_runs_choose
    (run : Runs (choose table requested candidates).run trace (some (.ok selection))) :
    ∃ subnet host last, Fits table requested subnet ∧
      Runs (inSubnet? subnet candidates host).run last (some (.ok (some selection))) := by
  cases requested with
  | some subnet =>
      obtain ⟨_, host, probes, rfl, rfl, htrial⟩ := runs_run_call_bind_ok.1 run
      obtain ⟨found, last, rest, rfl, hlast, hend⟩ := runs_run_bind_ok.1 htrial
      cases found with
      | none => cases (runs_done.1 hend).2
      | some found =>
          cases (runs_done.1 hend).2
          exact ⟨subnet, host, last, rfl, hlast⟩
  | none =>
      obtain ⟨_, host, probes, rfl, rfl, hlog⟩ := runs_run_call_bind_ok.1 run
      rw [runs_run_log_bind, runs_run_bind_ok] at hlog
      obtain ⟨found, walk, rest, rfl, hwalk, hend⟩ := hlog
      cases found with
      | none => cases (runs_done.1 hend).2
      | some found =>
          cases (runs_done.1 hend).2
          obtain ⟨before, subnet, after, passed, last, hsubnets, rfl, -, hlast⟩ :=
            split_of_runs_firstFit?_some hwalk
          have hfits : subnet ∈ table.subnets := by simp [hsubnets]
          exact ⟨subnet, host, last, hfits, hlast⟩

theorem fits_of_runs_choose
    (run : Runs (choose table requested candidates).run trace (some (.ok selection))) :
    Fits table requested selection.interface.ip := by
  obtain ⟨subnet, host, last, hfits, hlast⟩ := trial_of_runs_choose run
  rw [(offer_of_runs_inSubnet? hlast).1]
  exact hfits

theorem mem_or_planned_of_runs_inSubnet?
    (run : Runs (inSubnet? subnet candidates host).run trace (some (.ok (some selection)))) :
    selection.interface ∈ candidates ∨ selection.interface = .planned subnet := by
  have hplanned (hclaim : claim? subnet host = some selection) :
      selection.interface = .planned subnet := by
    obtain ⟨-, rfl⟩ := claim?_eq_some.1 hclaim
    rfl
  rw [runs_inSubnet?] at run
  cases hfound : candidates.find? (·.ip = subnet) with
  | none =>
      simp only [hfound, Option.some.injEq, Except.ok.injEq] at run
      exact .inr (hplanned run.2.symm)
  | some candidate =>
      simp only [hfound] at run
      split at run
      · simp at run
      · obtain ⟨reply, -, hresult⟩ := run
        rcases reply with fault | alive
        · cases hresult
        · cases alive with
          | true => exact .inr (hplanned (by simpa [Except.map] using hresult.symm))
          | false =>
              simp only [Except.map, Bool.false_eq_true, if_false, Option.some.injEq,
                Except.ok.injEq] at hresult
              subst hresult
              exact .inl (List.mem_of_find?_eq_some hfound)

/-- An adapter that is there already was listed by the hypervisor. -/
theorem mem_candidates_of_runs_choose
    (run : Runs (choose table requested candidates).run trace (some (.ok selection)))
    (hpresent : selection.interface.isPresent = true) : selection.interface ∈ candidates := by
  obtain ⟨subnet, host, last, -, hlast⟩ := trial_of_runs_choose run
  rcases mem_or_planned_of_runs_inSubnet? hlast with hlisted | hplanned
  · exact hlisted
  · rw [hplanned] at hpresent
    cases hpresent

end VmLifecycle.Selection
