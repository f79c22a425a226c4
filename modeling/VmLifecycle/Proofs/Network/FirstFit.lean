import VmLifecycle.Network.Selection
import VmLifecycle.Proofs.Effect.FailStop

/-!
# First fit over the subnets

What the trial of one subnet comes to, as a function of its one probe, and how
the walk over the table is made of such trials: the walk passes over subnets
that do not fit and ends at the first that does, or at a probe that fails.
-/

namespace VmLifecycle.Selection

open Program

variable {candidates host : List Interface} {subnet : Ipv4}

/-- What a subnet without an adapter to take over comes to: a new adapter, if no
interface of the host is in it. -/
def claim? (subnet : Ipv4) (host : List Interface) : Option Selection :=
  if countAt host subnet = 0 then some ⟨.planned subnet, false⟩ else none

theorem claim?_eq_some {selection : Selection} :
    claim? subnet host = some selection ↔
      countAt host subnet = 0 ∧ selection = ⟨.planned subnet, false⟩ := by
  unfold claim?
  split
  · rename_i hfree
    simp only [Option.some.injEq, hfree, true_and]
    exact eq_comm
  · rename_i hused
    simp [hused]

theorem claim?_eq_none : claim? subnet host = none ↔ countAt host subnet ≠ 0 := by
  unfold claim?
  split <;> simp_all

theorem runs_fresh? {trace : List Exchange} {r : Option (Except Fault (Option Selection))} :
    Runs (fresh? subnet host).run trace r ↔
      trace = [] ∧ r = some (.ok (claim? subnet host)) := by
  unfold fresh? claim?
  split
  · simp only [run_bind, run_lift, Program.log, Program.note_bind, Program.done_bind, run_pure,
      runs_note, runs_done]
  · simp only [run_pure, runs_done]

/-- The runs of one trial. There is a probe only where an adapter could be taken
over, and its answer decides whether it is. -/
theorem runs_inSubnet? {trace : List Exchange}
    {r : Option (Except Fault (Option Selection))} :
    Runs (inSubnet? subnet candidates host).run trace r ↔
      match candidates.find? (·.ip = subnet) with
      | none => trace = [] ∧ r = some (.ok (claim? subnet host))
      | some candidate =>
        if 1 < countAt host subnet then trace = [] ∧ r = some (.ok none)
        else ∃ reply, trace = [⟨.probe subnet.vmAddress, reply⟩] ∧
          r = some (reply.map fun alive =>
            if alive then claim? subnet host else some ⟨candidate, true⟩) := by
  unfold inSubnet?
  cases candidates.find? (·.ip = subnet) with
  | none => exact runs_fresh?
  | some candidate =>
      simp only
      split
      · simp only [run_bind, run_lift, Program.log, Program.note_bind, Program.done_bind,
          run_pure, runs_note, runs_done]
      · simp only [run_bind, run_outcome, Program.call, Program.ask_bind, Program.done_bind,
          runs_ask]
        constructor
        · rintro ⟨reply, rest, rfl, hrun⟩
          refine ⟨reply, ?_⟩
          rcases reply with fault | alive
          · obtain ⟨rfl, rfl⟩ := runs_done.1 hrun
            exact ⟨rfl, rfl⟩
          · cases alive with
            | true =>
                simp only [if_true, run_bind, run_lift, Program.log, Program.note_bind,
                  Program.done_bind, runs_note, runs_fresh?] at hrun
                obtain ⟨rfl, rfl⟩ := hrun
                exact ⟨rfl, rfl⟩
            | false =>
                simp only [Bool.false_eq_true, if_false, run_bind, run_lift, Program.log,
                  Program.note_bind, Program.done_bind, run_pure, runs_note, runs_done] at hrun
                obtain ⟨rfl, rfl⟩ := hrun
                exact ⟨rfl, rfl⟩
        · rintro ⟨reply, rfl, rfl⟩
          refine ⟨reply, [], rfl, ?_⟩
          rcases reply with fault | alive
          · exact .done _
          · cases alive with
            | true => exact .note (runs_fresh?.2 ⟨rfl, rfl⟩)
            | false => exact .note (.done _)

/-- A trial that offers an adapter offers one of its own subnet: an adapter that
is taken over, or a new one. -/
theorem offer_of_runs_inSubnet? {trace : List Exchange} {selection : Selection}
    (run : Runs (inSubnet? subnet candidates host).run trace (some (.ok (some selection)))) :
    selection.interface.ip = subnet ∧
      (selection.reused = true ∧ candidates.find? (·.ip = subnet) = some selection.interface ∧
          countAt host subnet ≤ 1 ∧ trace = [⟨.probe subnet.vmAddress, .ok false⟩] ∨
        selection.reused = false ∧ countAt host subnet = 0 ∧
          ((candidates.find? (·.ip = subnet) = none ∧ trace = []) ∨
            ((candidates.find? (·.ip = subnet)).isSome ∧
              trace = [⟨.probe subnet.vmAddress, .ok true⟩]))) := by
  rw [runs_inSubnet?] at run
  cases hfound : candidates.find? (·.ip = subnet) with
  | none =>
      simp only [hfound, Option.some.injEq, Except.ok.injEq] at run
      obtain ⟨rfl, hclaim⟩ := run
      obtain ⟨hfree, rfl⟩ := claim?_eq_some.1 hclaim.symm
      exact ⟨rfl, .inr ⟨rfl, hfree, .inl ⟨rfl, rfl⟩⟩⟩
  | some candidate =>
      have hip : candidate.ip = subnet := by simpa using List.find?_some hfound
      simp only [hfound] at run
      split at run
      · simp at run
      · rename_i hunique
        obtain ⟨reply, rfl, hresult⟩ := run
        rcases reply with fault | alive
        · cases hresult
        · cases alive with
          | true =>
              simp only [Except.map, if_true, Option.some.injEq, Except.ok.injEq] at hresult
              obtain ⟨hfree, rfl⟩ := claim?_eq_some.1 hresult.symm
              exact ⟨rfl, .inr ⟨rfl, hfree, .inr ⟨rfl, rfl⟩⟩⟩
          | false =>
              simp only [Except.map, Bool.false_eq_true, if_false, Option.some.injEq,
                Except.ok.injEq] at hresult
              subst hresult
              exact ⟨hip, .inl ⟨rfl, rfl, by omega, rfl⟩⟩

/-- A trial that comes to nothing has made no probe, or one that met a live VM
in a subnet that the host uses. -/
theorem probe_of_runs_inSubnet?_none {trace : List Exchange} {x : Exchange}
    (run : Runs (inSubnet? subnet candidates host).run trace (some (.ok none)))
    (hx : x ∈ trace) :
    x = ⟨.probe subnet.vmAddress, .ok true⟩ ∧ countAt host subnet ≠ 0 := by
  rw [runs_inSubnet?] at run
  cases hfound : candidates.find? (·.ip = subnet) with
  | none =>
      simp only [hfound] at run
      rw [run.1] at hx
      cases hx
  | some candidate =>
      simp only [hfound] at run
      split at run
      · rw [run.1] at hx
        cases hx
      · obtain ⟨reply, rfl, hresult⟩ := run
        have hx := List.mem_singleton.1 hx
        rcases reply with fault | alive
        · cases hresult
        · cases alive with
          | true =>
              simp only [Except.map, if_true, Option.some.injEq, Except.ok.injEq] at hresult
              exact ⟨hx, claim?_eq_none.1 hresult.symm⟩
          | false => simp [Except.map] at hresult

/-! ## The walk -/

theorem runs_firstFit?_cons {subnets : List Ipv4} {trace : List Exchange}
    {r : Option (Except Fault (Option Selection))} :
    Runs (firstFit? candidates host (subnet :: subnets)).run trace r ↔
      Runs (inSubnet? subnet candidates host >>= fun found =>
        match found with
        | some selection => pure (some selection)
        | none => firstFit? candidates host subnets).run trace r :=
  Iff.rfl

/-- A walk that comes to nothing is a trial of each subnet that does. -/
theorem probe_of_runs_firstFit?_none {subnets : List Ipv4} {trace : List Exchange} {x : Exchange}
    (run : Runs (firstFit? candidates host subnets).run trace (some (.ok none)))
    (hx : x ∈ trace) :
    ∃ s ∈ subnets, x = ⟨.probe s.vmAddress, .ok true⟩ ∧ countAt host s ≠ 0 := by
  induction subnets generalizing trace with
  | nil =>
      obtain ⟨rfl, _⟩ := runs_done.1 run
      cases hx
  | cons subnet subnets ih =>
      rw [runs_firstFit?_cons, runs_run_bind_ok] at run
      obtain ⟨found, first, second, rfl, hfirst, hsecond⟩ := run
      cases found with
      | some selection =>
          obtain ⟨_, hresult⟩ := runs_done.1 hsecond
          cases hresult
      | none =>
          rcases List.mem_append.1 hx with hx | hx
          · exact ⟨subnet, by simp, probe_of_runs_inSubnet?_none hfirst hx⟩
          · obtain ⟨s, hs, hprobe⟩ := ih hsecond hx
            exact ⟨s, List.mem_cons_of_mem _ hs, hprobe⟩

/-- A walk that finds an adapter has passed over some subnets and then tried the
one it found it in. -/
theorem split_of_runs_firstFit?_some {subnets : List Ipv4} {trace : List Exchange}
    {selection : Selection}
    (run : Runs (firstFit? candidates host subnets).run trace (some (.ok (some selection)))) :
    ∃ before subnet after passed last, subnets = before ++ subnet :: after ∧
      trace = passed ++ last ∧
      Runs (firstFit? candidates host before).run passed (some (.ok none)) ∧
      Runs (inSubnet? subnet candidates host).run last (some (.ok (some selection))) := by
  induction subnets generalizing trace with
  | nil =>
      obtain ⟨_, hresult⟩ := runs_done.1 run
      cases hresult
  | cons subnet subnets ih =>
      rw [runs_firstFit?_cons, runs_run_bind_ok] at run
      obtain ⟨found, first, second, rfl, hfirst, hsecond⟩ := run
      cases found with
      | some found =>
          obtain ⟨rfl, hresult⟩ := runs_done.1 hsecond
          cases hresult
          exact ⟨[], subnet, subnets, [], first, rfl, by simp, .done _, hfirst⟩
      | none =>
          obtain ⟨before, s, after, passed, last, rfl, rfl, hpassed, hlast⟩ := ih hsecond
          refine ⟨subnet :: before, s, after, first ++ passed, last, rfl, by simp, ?_, hlast⟩
          rw [runs_firstFit?_cons]
          exact (Program.runs_run_bind_append hfirst).2 hpassed

/-! ## The calls of a selection -/

section Calls

variable {P : Call → Prop} {own : Fault → Prop}

theorem only_inSubnet? (hprobe : P (.probe subnet.vmAddress)) :
    Only P (inSubnet? subnet candidates host).run := by
  have hfresh : Only P (fresh? subnet host).run := by
    unfold fresh?
    split
    · exact only_run_bind (only_run_log _) fun _ => only_run_pure _
    · exact only_run_pure none
  unfold inSubnet?
  split
  · exact hfresh
  · split
    · exact only_run_bind (only_run_log _) fun _ => only_run_pure none
    · refine only_run_bind (only_call hprobe) fun alive => ?_
      split
      · exact only_run_bind (only_run_log _) fun _ => hfresh
      · exact only_run_bind (only_run_log _) fun _ => only_run_pure _

theorem only_firstFit? {subnets : List Ipv4} (hprobe : ∀ s ∈ subnets, P (.probe s.vmAddress)) :
    Only P (firstFit? candidates host subnets).run := by
  induction subnets with
  | nil => exact only_run_pure none
  | cons subnet subnets ih =>
      obtain ⟨hfirst, hrest⟩ := List.forall_mem_cons.1 hprobe
      refine only_run_bind (only_inSubnet? hfirst) fun found => ?_
      cases found with
      | some selection => exact only_run_pure _
      | none => exact ih hrest

theorem only_inRequested (hhost : P .hostInterfaces) (hprobe : P (.probe subnet.vmAddress)) :
    Only P (inRequested subnet candidates).run := by
  refine only_run_bind (only_call hhost) fun host => ?_
  refine only_run_bind (only_inSubnet? hprobe) fun found => ?_
  cases found with
  | some selection => exact only_run_pure _
  | none => exact only_run_throw _

theorem only_available {table : AddressTable} (hhost : P .hostInterfaces)
    (hprobe : ∀ s ∈ table.subnets, P (.probe s.vmAddress)) :
    Only P (available table candidates).run := by
  refine only_run_bind (only_call hhost) fun host => ?_
  refine only_run_bind (only_run_log _) fun _ => ?_
  refine only_run_bind (only_firstFit? hprobe) fun found => ?_
  cases found with
  | some selection => exact only_run_pure _
  | none => exact only_run_throw _

theorem only_choose {table : AddressTable} {requested : Option Ipv4}
    (hhost : P .hostInterfaces) (hprobe : ∀ ip, P (.probe ip)) :
    Only P (choose table requested candidates).run := by
  cases requested with
  | some subnet => exact only_inRequested hhost (hprobe _)
  | none => exact only_available hhost fun _ _ => hprobe _

/-- What a selection ends in when no subnet fits. -/
def refusal : Option Ipv4 → Fault
  | some subnet => .subnetTaken subnet
  | none => .noSubnetLeft

theorem failStop_inSubnet? : FailStop own (inSubnet? subnet candidates host).run := by
  have hfresh : FailStop own (fresh? subnet host).run := by
    unfold fresh?
    split <;> trivial
  unfold inSubnet?
  split
  · exact hfresh
  · split
    · trivial
    · refine failStop_run_bind (failStop_call (by rintro (_ | _) <;> rfl)) fun alive => ?_
      split
      · exact hfresh
      · trivial

theorem failStop_firstFit? (subnets : List Ipv4) :
    FailStop own (firstFit? candidates host subnets).run := by
  induction subnets with
  | nil => trivial
  | cons subnet subnets ih =>
      refine failStop_run_bind failStop_inSubnet? fun found => ?_
      cases found with
      | some selection => trivial
      | none => exact ih

theorem failStop_choose {table : AddressTable} {requested : Option Ipv4} :
    FailStop (· = refusal requested) (choose table requested candidates).run := by
  cases requested with
  | some subnet =>
      refine failStop_run_bind (failStop_call (by rintro (_ | _) <;> rfl)) fun host => ?_
      refine failStop_run_bind failStop_inSubnet? fun found => ?_
      cases found <;> trivial
  | none =>
      refine failStop_run_bind (failStop_call (by rintro (_ | _) <;> rfl)) fun host => ?_
      show FailStop _ (firstFit? candidates host table.subnets >>= _).run
      refine failStop_run_bind (failStop_firstFit? _) fun found => ?_
      cases found <;> trivial

end Calls

end VmLifecycle.Selection
