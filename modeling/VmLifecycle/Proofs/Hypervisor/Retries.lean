import VmLifecycle.Proofs.Effect.Along
import VmLifecycle.Proofs.Hypervisor.Registration
import VmLifecycle.Proofs.Network.Collision
import VmLifecycle.Proofs.Network.Verdict

/-!
# Registering a VM again and again

A registration that fails leaves the adapter that it created behind. Where nothing
answers to a probe, this does no harm: the subnets before that of the adapter are
passed over as before, and there the adapter is found and taken over. So an adapter
is created once at most, however often a registration is tried and wherever it fails.

The invariant is on what was created so far. It is nothing, or one adapter in a subnet
that a first selection would have claimed.
-/

namespace VmLifecycle

open Program

namespace Selection

/-! ## Selections where nothing answers -/

/-- A scene where no VM is up. -/
def quiet (candidates host : List Interface) : Scene :=
  ⟨candidates, host, fun _ => .ok false⟩

variable {candidates candidates' host host' : List Interface} {subnet : Ipv4}
  {table : AddressTable} {requested : Option Ipv4} {trace : List Exchange}
  {selection : Selection}

theorem quiet_reusable : (quiet candidates host).Reusable subnet ↔
    countAt candidates subnet ≠ 0 ∧ countAt host subnet ≤ 1 := by
  have hlisted : (∃ candidate ∈ candidates, candidate.ip = subnet) ↔
      countAt candidates subnet ≠ 0 := by
    rw [← Nat.pos_iff_ne_zero, countAt, List.countP_pos_iff]
    simp
  simp [Scene.Reusable, Scene.Probed, quiet, hlisted]

theorem quiet_claimable : (quiet candidates host).Claimable subnet ↔
    countAt candidates subnet = 0 ∧ countAt host subnet = 0 := by
  rw [Scene.Claimable, quiet_reusable]
  constructor
  · rintro ⟨hidle, hfree⟩
    refine ⟨Classical.not_not.1 fun hlisted => hidle ⟨hlisted, ?_⟩, hfree⟩
    exact Nat.le_trans (Nat.le_of_eq hfree) (Nat.zero_le 1)
  · rintro ⟨hunlisted, hfree⟩
    exact ⟨fun h => h.1 hunlisted, hfree⟩

theorem not_unanswered_quiet {fault : Fault} :
    ¬ (quiet candidates host).Unanswered subnet fault :=
  fun h => nomatch h.2

theorem quiet_passed : (quiet candidates host).Passed subnet ↔
    ¬ (countAt candidates subnet ≠ 0 ∧ countAt host subnet ≤ 1) ∧
      ¬ (countAt candidates subnet = 0 ∧ countAt host subnet = 0) := by
  rw [← quiet_reusable, ← quiet_claimable]
  constructor
  · exact fun h => ⟨h.notReusable, h.notClaimable⟩
  · exact fun h => ⟨h.1, h.2, fun fault => not_unanswered_quiet⟩

/-- A selection that finds an adapter where no VM answers is the outcome of the quiet
scene. -/
theorem quiet_outcome_of_runs_choose
    (run : Runs (choose table requested candidates).run trace (some (.ok selection)))
    (hquiet : ∀ ip, ⟨.probe ip, .ok true⟩ ∉ trace) :
    ∃ host, ⟨.hostInterfaces, .ok host⟩ ∈ trace ∧
      (quiet candidates host).outcome (trials table requested) = .ok (some selection) := by
  obtain ⟨reply, walk, rfl, hwalk⟩ := runs_choose.1 run
  rcases reply with fault | host
  · cases hwalk.2
  obtain ⟨found, hwalk, hfound⟩ := hwalk
  obtain rfl : found = .ok (some selection) := by
    rcases found with fault | _ | found <;> cases hfound
    rfl
  refine ⟨host, List.mem_cons_self, ?_⟩
  have honly : Only (fun call => ∃ ip, call = .probe ip)
      (firstFit? candidates host (trials table requested)).run :=
    only_firstFit? fun _ _ => ⟨_, rfl⟩
  have hstop : FailStop (fun _ => False) (firstFit? candidates host (trials table requested)).run :=
    failStop_firstFit? _
  have hanswered : ∀ x ∈ walk, AnsweredBy (.ok host) (fun _ => .ok false) x := by
    intro x hx
    have hprobe : ∃ ip, x.call = .probe ip := honly.of_runs hwalk hx
    have hfault : x.fault? = none := fault?_of_firstFault?_none (hstop.firstFault?_ok hwalk) hx
    obtain ⟨call, reply⟩ := x
    obtain ⟨ip, rfl⟩ := hprobe
    rcases reply with fault | alive
    · cases hfault
    · cases alive with
      | false => rfl
      | true => exact absurd (List.mem_cons_of_mem _ hx) (hquiet ip)
  exact (Option.some.inj (runs_firstFit?_answered.1 ⟨hwalk, hanswered⟩).2).symm

/-- A first selection would claim the subnet. -/
def Placed (table : AddressTable) (requested : Option Ipv4) (candidates host : List Interface)
    (subnet : Ipv4) : Prop :=
  ∃ before after, trials table requested = before ++ subnet :: after ∧
    (∀ s ∈ before, (quiet candidates host).Passed s) ∧ (quiet candidates host).Claimable subnet

/-- An adapter that is not there yet is planned in the subnet that a selection claims. -/
theorem placed_of_quiet_outcome
    (h : (quiet candidates host).outcome (trials table requested) = .ok (some selection))
    (hpresent : ∀ candidate ∈ candidates, candidate.isPresent = true)
    (habsent : ¬ selection.interface.isPresent = true) :
    Placed table requested candidates host selection.interface.ip := by
  rcases (quiet candidates host).passed_or_split (trials table requested) with hall |
    ⟨before, subnet, after, hsplit, hbefore, hnot⟩
  · rw [(Scene.walk_of_passed hall).2] at h
    cases h
  · rw [hsplit, (Scene.walk_of_split hbefore hnot).2] at h
    by_cases hreusable : (quiet candidates host).Reusable subnet
    · obtain ⟨candidate, hfound⟩ := Scene.find?_of_probed hreusable.1
      rw [Scene.verdict_of_reusable hreusable, hfound] at h
      cases h
      exact absurd (hpresent candidate (List.mem_of_find?_eq_some hfound)) habsent
    · have hclaimable : (quiet candidates host).Claimable subnet :=
        Classical.not_not.1 fun hclaim => hnot ⟨hreusable, hclaim, fun _ => not_unanswered_quiet⟩
      rw [Scene.verdict_of_claimable hclaimable fun _ => not_unanswered_quiet] at h
      cases h
      exact ⟨before, after, hsplit, hbefore, hclaimable⟩

/-- Where a subnet is placed depends on how many interfaces have each address. -/
theorem Placed.of_countAt (hcandidates : ∀ s, countAt candidates' s = countAt candidates s)
    (hhost : ∀ s, countAt host' s = countAt host s)
    (h : Placed table requested candidates' host' subnet) :
    Placed table requested candidates host subnet := by
  obtain ⟨before, after, hsplit, hbefore, hclaimable⟩ := h
  simp only [quiet_passed, quiet_claimable, hcandidates, hhost] at hbefore hclaimable
  exact ⟨before, after, hsplit, fun s hs => quiet_passed.2 (hbefore s hs),
    quiet_claimable.2 hclaimable⟩

theorem Placed.free (h : Placed table requested candidates host subnet) :
    countAt candidates subnet = 0 ∧ countAt host subnet = 0 := by
  obtain ⟨_, _, -, -, hclaimable⟩ := h
  exact quiet_claimable.1 hclaimable

/-- Once there is an adapter in the subnet that was claimed, a selection takes it over. -/
theorem Placed.outcome (h : Placed table requested candidates host subnet)
    (hcandidates : ∀ s, s ≠ subnet → countAt candidates' s = countAt candidates s)
    (hhost : ∀ s, s ≠ subnet → countAt host' s = countAt host s)
    (hlisted : countAt candidates' subnet ≠ 0) (hunique : countAt host' subnet ≤ 1) :
    (quiet candidates' host').outcome (trials table requested) =
      .ok ((candidates'.find? (·.ip = subnet)).map (⟨·, true⟩)) := by
  obtain ⟨before, after, hsplit, hbefore, hclaimable⟩ := h
  have hpassed : ∀ s ∈ before, (quiet candidates' host').Passed s := by
    intro s hs
    have hne : s ≠ subnet := by
      rintro rfl
      exact (hbefore s hs).notClaimable hclaimable
    rw [quiet_passed, hcandidates s hne, hhost s hne, ← quiet_passed]
    exact hbefore s hs
  have hreusable : (quiet candidates' host').Reusable subnet :=
    quiet_reusable.2 ⟨hlisted, hunique⟩
  calc (quiet candidates' host').outcome (trials table requested)
      = (quiet candidates' host').outcome (before ++ subnet :: after) := by rw [hsplit]
    _ = (quiet candidates' host').verdict subnet :=
      (Scene.walk_of_split hpassed fun h => h.notReusable hreusable).2
    _ = .ok ((candidates'.find? (·.ip = subnet)).map (⟨·, true⟩)) :=
      Scene.verdict_of_reusable hreusable

end Selection

/-! ## The adapters that were created -/

/-- The adapters that were created so far, each with the address it was asked for. -/
def createdAfter (made : List (String × Ipv4)) : Exchange → List (String × Ipv4)
  | ⟨.createAdapter ip, .ok adapter⟩ => made ++ [(adapter, ip)]
  | _ => made

/-- An adapter is created. -/
def Exchange.creates : Exchange → Bool
  | ⟨.createAdapter _, .ok _⟩ => true
  | _ => false

/-- The adapters at first were `initial`, and the interfaces of the host were `host`. The
hypervisor lists all adapters, with those that were created since, and each of them is
there. The host lists its interfaces, with or without those that were created. Nothing
answers to a probe. -/
def Exchange.Lists (initial host : List Interface) (made : List (String × Ipv4)) :
    Exchange → Prop
  | ⟨.hostOnlyAdapters, .ok adapters⟩ => (∀ i ∈ adapters, i.isPresent = true) ∧
    ∃ gained : List Interface, gained.map (fun i => (i.name, i.ip)) = made ∧
      adapters.Perm (initial ++ gained)
  | ⟨.hostInterfaces, .ok interfaces⟩ => interfaces.Perm host ∨
    ∃ gained : List Interface, gained.map (·.ip) = made.map (·.2) ∧
      interfaces.Perm (host ++ gained)
  | ⟨.probe _, reply⟩ => reply ≠ .ok true
  | _ => True

/-- Each exchange of the trace lists what was there at first or created since. -/
def Listed (initial host : List Interface) (made : List (String × Ipv4))
    (trace : List Exchange) : Prop :=
  Along createdAfter (Exchange.Lists initial host) made trace

section

variable {made : List (String × Ipv4)} {initial host : List Interface} {x : Exchange}
  {trace : List Exchange}

theorem createdAfter_of_not_creates (h : x.creates = false) : createdAfter made x = made := by
  obtain ⟨call, reply⟩ := x
  cases call
  case createAdapter ip =>
    rcases reply with fault | adapter
    · rfl
    · cases h
  all_goals rfl

theorem length_createdAfter :
    (createdAfter made x).length = made.length + if x.creates then 1 else 0 := by
  obtain ⟨call, reply⟩ := x
  cases call
  case createAdapter ip =>
    rcases reply with fault | adapter
    · rfl
    · simp [createdAfter, Exchange.creates]
  all_goals rfl

theorem length_foldl_createdAfter :
    (trace.foldl createdAfter made).length = made.length + trace.countP Exchange.creates := by
  induction trace generalizing made with
  | nil => rfl
  | cons x trace ih =>
      rw [List.foldl_cons, ih, length_createdAfter, List.countP_cons]
      omega

theorem foldl_createdAfter_of_not_creates (h : ∀ x ∈ trace, x.creates = false) :
    trace.foldl createdAfter made = made :=
  foldl_of_still fun x hx => createdAfter_of_not_creates (h x hx)

/-- What is created on a trace is among what was created in the end. -/
theorem mem_foldl_createdAfter {adapter : String} {ip : Ipv4}
    (h : (adapter, ip) ∈ made ∨ ⟨.createAdapter ip, .ok adapter⟩ ∈ trace) :
    (adapter, ip) ∈ trace.foldl createdAfter made := by
  induction trace generalizing made with
  | nil => simpa using h
  | cons x trace ih =>
      refine ih ?_
      rcases h with hmade | hx
      · left
        by_cases hcreates : x.creates = true
        · obtain ⟨call, reply⟩ := x
          cases call
          case createAdapter other =>
            rcases reply with fault | created
            · cases hcreates
            · exact List.mem_append_left _ hmade
          all_goals cases hcreates
        · rwa [createdAfter_of_not_creates (Bool.not_eq_true _ ▸ hcreates)]
      · rcases List.mem_cons.1 hx with rfl | hx
        · exact .inl (List.mem_append_right _ (List.mem_singleton_self _))
        · exact .inr hx

open Selection

theorem countAt_adapters {adapters : List Interface}
    (h : (⟨.hostOnlyAdapters, .ok adapters⟩ : Exchange).Lists initial host made) (s : Ipv4) :
    countAt adapters s = countAt initial s + made.countP (·.2 = s) := by
  obtain ⟨-, gained, rfl, hperm⟩ := h
  rw [countAt, hperm.countP_eq, List.countP_append, List.countP_map]
  rfl

theorem countAt_interfaces {interfaces : List Interface}
    (h : (⟨.hostInterfaces, .ok interfaces⟩ : Exchange).Lists initial host made) :
    (∀ s, countAt interfaces s = countAt host s) ∨
      ∀ s, countAt interfaces s = countAt host s + made.countP (·.2 = s) := by
  rcases h with hperm | ⟨gained, hgained, hperm⟩
  · exact .inl fun s => hperm.countP_eq _
  · refine .inr fun s => ?_
    have hmade : made.countP (·.2 = s) = countAt gained s := by
      calc made.countP (·.2 = s)
          = (made.map (·.2)).countP (· = s) := by rw [List.countP_map]; rfl
        _ = (gained.map (·.ip)).countP (· = s) := by rw [hgained]
        _ = countAt gained s := by rw [List.countP_map]; rfl
    rw [hmade, countAt, hperm.countP_eq, List.countP_append]
    rfl

end

namespace Hypervisor

open Selection

variable {table : AddressTable} {name image adapter : String} {spec : NewVm}
  {requested : Option Ipv4} {trace picking rest : List Exchange} {ip : Ipv4}
  {initial host candidates : List Interface} {made : List (String × Ipv4)}
  {selection : Selection}

/-! ## How a registration comes by its adapter -/

/-- The call creates no adapter, and it gives a VM no other one than this. -/
structure Uses (adapter : String) (call : Call) : Prop where
  uncreated : ∀ ip, call ≠ .createAdapter ip
  attached : ∀ other vm, call = .attachAdapter other vm → other = adapter

/-- How a registration comes by its adapter, with all that it does then. -/
inductive Sourcing (table : AddressTable) (requested : Option Ipv4) : List Exchange → Prop
  | unlisted (fault : Fault) : Sourcing table requested [⟨.hostOnlyAdapters, .error fault⟩]
  | unplaced {candidates : List Interface} {picking : List Exchange} {fault : Fault}
      (hpicking : Runs (choose table requested candidates).run picking (some (.error fault))) :
      Sourcing table requested (⟨.hostOnlyAdapters, .ok candidates⟩ :: picking)
  | reused {candidates : List Interface} {picking rest : List Exchange} {selection : Selection}
      (hpicking : Runs (choose table requested candidates).run picking (some (.ok selection)))
      (hpresent : selection.interface.isPresent = true)
      (hrest : ∀ x ∈ rest, Uses selection.interface.name x.call) :
      Sourcing table requested (⟨.hostOnlyAdapters, .ok candidates⟩ :: (picking ++ rest))
  | uncreated {candidates : List Interface} {picking : List Exchange} {selection : Selection}
      {fault : Fault}
      (hpicking : Runs (choose table requested candidates).run picking (some (.ok selection)))
      (habsent : ¬ selection.interface.isPresent = true) :
      Sourcing table requested (⟨.hostOnlyAdapters, .ok candidates⟩ ::
        (picking ++ [⟨.createAdapter selection.interface.ip, .error fault⟩]))
  | created {candidates : List Interface} {picking rest : List Exchange} {selection : Selection}
      {adapter : String}
      (hpicking : Runs (choose table requested candidates).run picking (some (.ok selection)))
      (habsent : ¬ selection.interface.isPresent = true)
      (hrest : ∀ x ∈ rest, Uses adapter x.call) :
      Sourcing table requested (⟨.hostOnlyAdapters, .ok candidates⟩ ::
        (picking ++ ⟨.createAdapter selection.interface.ip, .ok adapter⟩ :: rest))

theorem only_install {found : Selection × String} :
    Only (Uses found.2) (install name image spec found).run := by
  have hsetUp : Only (Uses found.2) (setUp name found.2 spec).run := by
    refine only_run_bind (only_call ⟨nofun, nofun⟩) fun _ => ?_
    refine only_run_bind (only_call ⟨nofun, ?_⟩) fun _ => ?_
    · rintro _ _ ⟨⟩
      rfl
    refine only_run_bind (only_call ⟨nofun, nofun⟩) fun port => ?_
    exact only_run_bind (only_call ⟨nofun, nofun⟩) fun _ => only_run_pure port
  refine only_run_bind (only_call ⟨nofun, nofun⟩) fun _ => ?_
  refine only_run_bind (only_run_caught hsetUp) fun outcome => ?_
  cases outcome with
  | ok port => exact only_run_log _
  | error fault => exact only_abandon ⟨nofun, nofun⟩

theorem runs_adapterName {interface : Interface} {r : Option (Except Fault String)} :
    Runs (adapterName name interface).run trace r ↔
      if interface.isPresent then trace = [] ∧ r = some (.ok interface.name)
      else ∃ reply, trace = [⟨.createAdapter interface.ip, reply⟩] ∧ r = some reply := by
  unfold adapterName
  split
  · exact runs_done
  · constructor
    · intro run
      obtain ⟨reply, rest, rfl, hrest⟩ := runs_ask.1 run
      rcases reply with fault | created
      · obtain ⟨rfl, rfl⟩ := runs_done.1 hrest
        exact ⟨_, rfl, rfl⟩
      · obtain ⟨rfl, rfl⟩ := runs_done.1 (runs_note.1 hrest)
        exact ⟨_, rfl, rfl⟩
    · rintro ⟨reply, rfl, rfl⟩
      rcases reply with fault | created
      · exact .ask _ (.done _)
      · exact .ask _ (.note (.done _))

theorem sourcing_of_runs_reserve_error {fault : Fault}
    (run : Runs (reserve table name requested).run trace (some (.error fault))) :
    Sourcing table requested trace := by
  obtain ⟨reply, rest, rfl, hrest⟩ := runs_ask.1 run
  rcases reply with fault | candidates
  · obtain ⟨rfl, -⟩ := runs_done.1 hrest
    exact .unlisted fault
  rcases (runs_run_bind (ε := Fault)).1 hrest with
    ⟨selection, picking, last, rfl, hpicking, hlast⟩ | ⟨fault, hpicking, -⟩ | ⟨hpicking, -⟩
  · rcases runs_run_bind.1 hlast with ⟨adapter, creating, last, rfl, -, hlast⟩ |
      ⟨fault, hcreating, -⟩ | ⟨-, hnone⟩
    · cases (runs_done.1 hlast).2
    · rw [runs_adapterName] at hcreating
      split at hcreating
      · cases hcreating.2
      · rename_i habsent
        obtain ⟨_, rfl, hreply⟩ := hcreating
        cases hreply
        exact .uncreated hpicking habsent
    · cases hnone
  · exact .unplaced hpicking
  · exact absurd hpicking failStop_choose.not_runs_none

theorem sourcing_of_runs {r : Option (Except Fault Unit)}
    (run : Runs (register table name image spec).run trace r) :
    Sourcing table spec.subnet trace := by
  rw [runs_register] at run
  rcases runs_run_bind.1 run with ⟨found, early, late, rfl, hearly, hlate⟩ | ⟨fault, hearly, -⟩ |
    ⟨hearly, -⟩
  · obtain ⟨candidates, picking, creating, rfl, hpicking, hcreating⟩ :=
      reserve_calls_of_runs hearly
    have huses : ∀ x ∈ late, Uses found.2 x.call := fun x hx => only_install.of_runs hlate hx
    split at hcreating
    · rename_i hpresent
      obtain ⟨rfl, hname⟩ := hcreating
      rw [hname] at huses
      rw [List.append_nil]
      exact .reused hpicking hpresent huses
    · rename_i habsent
      subst hcreating
      rw [List.append_assoc]
      exact .created hpicking habsent huses
  · exact sourcing_of_runs_reserve_error hearly
  · exact absurd hearly failStop_reserve.not_runs_none

/-! ## One registration -/

/-- What was created so far: nothing, or one adapter where a selection would have planned
it. -/
def Settled (table : AddressTable) (requested : Option Ipv4) (initial host : List Interface)
    (made : List (String × Ipv4)) : Prop :=
  made = [] ∨ ∃ adapter ip, made = [(adapter, ip)] ∧ Placed table requested initial host ip

theorem Settled.length_le (h : Settled table requested initial host made) : made.length ≤ 1 := by
  rcases h with rfl | ⟨_, _, rfl, -⟩
  · exact Nat.zero_le 1
  · exact Nat.le_refl 1

theorem Uses.not_creates {x : Exchange} (h : Uses adapter x.call) : x.creates = false := by
  obtain ⟨call, reply⟩ := x
  cases call
  case createAdapter ip => exact absurd rfl (h.uncreated ip)
  all_goals rfl

/-- A selection creates no adapter and gives none to a VM. -/
theorem uses_of_runs_choose (adapter : String) {r : Option (Except Fault Selection)}
    (run : Runs (choose table requested candidates).run picking r) {x : Exchange}
    (hx : x ∈ picking) : Uses adapter x.call := by
  have honly : Only (Uses adapter) (choose table requested candidates).run :=
    only_choose ⟨nofun, nofun⟩ fun _ => ⟨nofun, nofun⟩
  exact honly.of_runs run hx

/-- While a selection is made, what was created stays the same. -/
theorem listed_of_runs_choose {r : Option (Except Fault Selection)}
    (run : Runs (choose table requested candidates).run picking r)
    (listed : Listed initial host made (picking ++ rest)) :
    (∀ x ∈ picking, x.Lists initial host made) ∧ Listed initial host made rest := by
  have hstill : ∀ x ∈ picking, x.creates = false :=
    fun x hx => (uses_of_runs_choose "" run hx).not_creates
  obtain ⟨hpicking, hrest⟩ := along_append.1 listed
  rw [foldl_createdAfter_of_not_creates hstill] at hrest
  exact ⟨fun x hx => hpicking.of_still (fun y hy => createdAfter_of_not_creates (hstill y hy)) hx,
    hrest⟩

/-- In a subnet that was claimed, a selection takes over what the hypervisor lists there
now. -/
theorem quiet_outcome_of_lists {interfaces : List Interface}
    (placed : Placed table requested initial host ip)
    (hadapters : (⟨.hostOnlyAdapters, .ok candidates⟩ : Exchange).Lists initial host
      [(adapter, ip)])
    (hinterfaces : (⟨.hostInterfaces, .ok interfaces⟩ : Exchange).Lists initial host
      [(adapter, ip)]) :
    (quiet candidates interfaces).outcome (trials table requested) =
      .ok ((candidates.find? (·.ip = ip)).map (⟨·, true⟩)) := by
  have hfree : countAt initial ip = 0 ∧ countAt host ip = 0 := placed.free
  have hmade (s : Ipv4) : [(adapter, ip)].countP (·.2 = s) = if ip = s then 1 else 0 := by
    simp [List.countP_cons]
  have hhost (s : Ipv4) : countAt interfaces s = countAt host s ∨
      countAt interfaces s = countAt host s + if ip = s then 1 else 0 := by
    rw [← hmade]
    rcases countAt_interfaces hinterfaces with hsame | hgained
    · exact .inl (hsame s)
    · exact .inr (hgained s)
  apply placed.outcome
  · intro s hs
    rw [countAt_adapters hadapters, hmade, if_neg (Ne.symm hs), Nat.add_zero]
  · intro s hs
    rcases hhost s with hcount | hcount
    · exact hcount
    · rw [hcount, if_neg (Ne.symm hs), Nat.add_zero]
  · rw [countAt_adapters hadapters, hmade, if_pos rfl]
    exact Nat.succ_ne_zero _
  · rcases hhost ip with hcount | hcount
    · omega
    · rw [hcount, if_pos rfl]
      omega

/-- The adapter that is listed in a subnet that was free is the one that was created. -/
theorem name_of_lists (hfree : countAt initial ip = 0)
    (hadapters : (⟨.hostOnlyAdapters, .ok candidates⟩ : Exchange).Lists initial host
      [(adapter, ip)])
    {candidate : Interface} (hmem : candidate ∈ candidates) (hip : candidate.ip = ip) :
    candidate.name = adapter := by
  obtain ⟨-, gained, hgained, hperm⟩ := hadapters
  rcases List.mem_append.1 (hperm.mem_iff.1 hmem) with hinitial | hnew
  · exact absurd hip (by simpa using List.countP_eq_zero.1 hfree candidate hinitial)
  · have hpair : (candidate.name, candidate.ip) ∈ gained.map fun i => (i.name, i.ip) :=
      List.mem_map_of_mem hnew
    rw [hgained, List.mem_singleton] at hpair
    exact (Prod.mk.inj hpair).1

/-- The selection takes over the adapter of that name and address. -/
structure TakesOver (adapter : String) (ip : Ipv4) (selection : Selection) : Prop where
  reused : selection.reused = true
  present : selection.interface.isPresent = true
  named : selection.interface.name = adapter
  placed : selection.interface.ip = ip

/-- Where an adapter was created, a selection takes it over. -/
theorem takesOver_of_runs_choose (placed : Placed table requested initial host ip)
    (listed : Listed initial host [(adapter, ip)]
      (⟨.hostOnlyAdapters, .ok candidates⟩ :: (picking ++ rest)))
    (run : Runs (choose table requested candidates).run picking (some (.ok selection))) :
    TakesOver adapter ip selection := by
  obtain ⟨hadapters, hlater⟩ := listed
  obtain ⟨hpicking, -⟩ := listed_of_runs_choose run hlater
  obtain ⟨interfaces, hinterfaces, houtcome⟩ :=
    quiet_outcome_of_runs_choose run fun ip hprobe => hpicking _ hprobe rfl
  have hfound : (candidates.find? (·.ip = ip)).map (⟨·, true⟩) = some selection := by
    rw [quiet_outcome_of_lists placed hadapters (hpicking _ hinterfaces)] at houtcome
    exact Except.ok.inj houtcome
  obtain ⟨candidate, hcandidate, rfl⟩ := Option.map_eq_some_iff.1 hfound
  have hip : candidate.ip = ip := by simpa using List.find?_some hcandidate
  have hmem : candidate ∈ candidates := List.mem_of_find?_eq_some hcandidate
  exact ⟨rfl, hadapters.1 candidate hmem, name_of_lists placed.free.1 hadapters hmem hip, hip⟩

/-- Where an adapter was created, a registration creates no other one and gives its VM
none but that. -/
theorem uses_of_sourcing (sourcing : Sourcing table requested trace)
    (placed : Placed table requested initial host ip)
    (listed : Listed initial host [(adapter, ip)] trace)
    {x : Exchange} (hx : x ∈ trace) : Uses adapter x.call := by
  have hlisting {reply : Except Fault (List Interface)} :
      Uses adapter (⟨.hostOnlyAdapters, reply⟩ : Exchange).call :=
    ⟨nofun, nofun⟩
  cases sourcing with
  | unlisted fault =>
      rw [List.mem_singleton.1 hx]
      exact hlisting
  | unplaced hpicking =>
      rcases List.mem_cons.1 hx with rfl | hx
      · exact hlisting
      · exact uses_of_runs_choose adapter hpicking hx
  | reused hpicking hpresent hrest =>
      rcases List.mem_cons.1 hx with rfl | hx
      · exact hlisting
      rcases List.mem_append.1 hx with hx | hx
      · exact uses_of_runs_choose adapter hpicking hx
      · rw [← (takesOver_of_runs_choose placed listed hpicking).named]
        exact hrest x hx
  | uncreated hpicking habsent =>
      exact absurd (takesOver_of_runs_choose placed listed hpicking).present habsent
  | created hpicking habsent =>
      exact absurd (takesOver_of_runs_choose placed listed hpicking).present habsent

/-- A new adapter is created where a first selection would have planned it. -/
theorem placed_of_runs_choose
    (listed : Listed initial host []
      (⟨.hostOnlyAdapters, .ok candidates⟩ :: (picking ++ rest)))
    (run : Runs (choose table requested candidates).run picking (some (.ok selection)))
    (habsent : ¬ selection.interface.isPresent = true) :
    Placed table requested initial host selection.interface.ip := by
  obtain ⟨hadapters, hlater⟩ := listed
  obtain ⟨hpicking, -⟩ := listed_of_runs_choose run hlater
  obtain ⟨interfaces, hinterfaces, houtcome⟩ :=
    quiet_outcome_of_runs_choose run fun ip hprobe => hpicking _ hprobe rfl
  refine (placed_of_quiet_outcome houtcome hadapters.1 habsent).of_countAt
    (fun s => countAt_adapters hadapters s) fun s => ?_
  rcases countAt_interfaces (hpicking _ hinterfaces) with hsame | hgained
  · exact hsame s
  · exact hgained s

/-- A registration creates nothing, or one adapter where a first selection would have
planned it. -/
theorem created_of_sourcing (sourcing : Sourcing table requested trace)
    (listed : Listed initial host [] trace) :
    (∀ x ∈ trace, x.creates = false) ∨ ∃ adapter ip, trace.foldl createdAfter [] = [(adapter, ip)] ∧
      Placed table requested initial host ip := by
  have hpicking {candidates : List Interface} {picking : List Exchange}
      {r : Option (Except Fault Selection)}
      (run : Runs (choose table requested candidates).run picking r) :
      ∀ x ∈ (⟨.hostOnlyAdapters, .ok candidates⟩ : Exchange) :: picking, x.creates = false := by
    refine List.forall_mem_cons.2 ⟨rfl, fun x hx => ?_⟩
    exact (uses_of_runs_choose "" run hx).not_creates
  cases sourcing with
  | unlisted fault => exact .inl (List.forall_mem_singleton.2 rfl)
  | unplaced hpicks => exact .inl (hpicking hpicks)
  | reused hpicks hpresent hrest =>
      refine .inl ?_
      rw [← List.cons_append, List.forall_mem_append]
      exact ⟨hpicking hpicks, fun x hx => (hrest x hx).not_creates⟩
  | uncreated hpicks habsent =>
      refine .inl ?_
      rw [← List.cons_append, List.forall_mem_append]
      exact ⟨hpicking hpicks, List.forall_mem_singleton.2 rfl⟩
  | @created _ _ rest selection adapter hpicks habsent hrest =>
      refine .inr ⟨adapter, selection.interface.ip, ?_, placed_of_runs_choose listed hpicks habsent⟩
      rw [← List.cons_append, List.foldl_append,
        foldl_createdAfter_of_not_creates (hpicking hpicks), List.foldl_cons]
      exact foldl_createdAfter_of_not_creates fun x hx => (hrest x hx).not_creates

/-- What one registration preserves. -/
theorem settled_of_sourcing (sourcing : Sourcing table requested trace)
    (settled : Settled table requested initial host made)
    (listed : Listed initial host made trace) :
    Settled table requested initial host (trace.foldl createdAfter made) := by
  rcases settled with rfl | ⟨adapter, ip, rfl, placed⟩
  · rcases created_of_sourcing sourcing listed with hstill | hcreated
    · exact .inl (foldl_createdAfter_of_not_creates hstill)
    · obtain ⟨adapter, ip, hmade, placed⟩ := hcreated
      exact .inr ⟨adapter, ip, hmade, placed⟩
  · have hstill : ∀ x ∈ trace, x.creates = false :=
      fun x hx => (uses_of_sourcing sourcing placed listed hx).not_creates
    rw [foldl_createdAfter_of_not_creates hstill]
    exact .inr ⟨adapter, ip, rfl, placed⟩

/-- A registration that creates an adapter leaves it as the only one that was created. -/
theorem placed_of_created (sourcing : Sourcing table requested trace)
    (settled : Settled table requested initial host made)
    (listed : Listed initial host made trace)
    (hcreated : ⟨.createAdapter ip, .ok adapter⟩ ∈ trace) :
    trace.foldl createdAfter made = [(adapter, ip)] ∧ Placed table requested initial host ip := by
  have hmem : (adapter, ip) ∈ trace.foldl createdAfter made :=
    mem_foldl_createdAfter (.inr hcreated)
  rcases settled_of_sourcing sourcing settled listed with hnone | ⟨_, _, hone, placed⟩
  · rw [hnone] at hmem
    cases hmem
  · rw [hone, List.mem_singleton] at hmem
    cases hmem
    exact ⟨hone, placed⟩

/-! ## Any number of registrations -/

/-- One of several registrations for VMs that are to be given the same. -/
structure Retry (table : AddressTable) (spec : NewVm) where
  name : String
  image : String
  trace : List Exchange
  result : Except Fault Unit
  run : Runs (register table name image spec).run trace (some result)

section

variable {retries before after : List (Retry table spec)} {retry later : Retry table spec}

theorem settled_of_retries (settled : Settled table spec.subnet initial host made)
    (listed : Listed initial host made (retries.flatMap (·.trace))) :
    Settled table spec.subnet initial host
      ((retries.flatMap (·.trace)).foldl createdAfter made) := by
  induction retries generalizing made with
  | nil => exact settled
  | cons retry retries ih =>
      obtain ⟨hfirst, hlater⟩ := along_append.1 listed
      rw [List.flatMap_cons, List.foldl_append]
      exact ih (settled_of_sourcing (sourcing_of_runs retry.run) settled hfirst) hlater

/-- Once an adapter was created, it is all that was created at each later registration. -/
theorem listed_of_later (placed : Placed table spec.subnet initial host ip)
    (listed : Listed initial host [(adapter, ip)] (retries.flatMap (·.trace)))
    (hlater : later ∈ retries) :
    Listed initial host [(adapter, ip)] later.trace := by
  induction retries with
  | nil => cases hlater
  | cons retry retries ih =>
      obtain ⟨hfirst, hrest⟩ := along_append.1 listed
      rcases List.mem_cons.1 hlater with rfl | hlater
      · exact hfirst
      · have hstill : ∀ x ∈ retry.trace, x.creates = false := fun x hx =>
          (uses_of_sourcing (sourcing_of_runs retry.run) placed hfirst hx).not_creates
        rw [foldl_createdAfter_of_not_creates hstill] at hrest
        exact ih hrest hlater

end

/-- Where nothing answers to a probe, and the hypervisor lists each adapter that it has
created as one that is there, any number of registrations creates one adapter at most,
wherever each of them fails. After that no registration creates another one, each that
selects an adapter takes that one over, and no VM is given any other. -/
theorem retries_create_once (initial host : List Interface) (retries : List (Retry table spec))
    (listed : Listed initial host [] (retries.flatMap (·.trace))) :
    (retries.flatMap (·.trace)).countP Exchange.creates ≤ 1 ∧
      ∀ before retry after, retries = before ++ retry :: after →
        ∀ ip adapter, ⟨.createAdapter ip, .ok adapter⟩ ∈ retry.trace → ∀ later ∈ after,
          (∀ x ∈ later.trace, Uses adapter x.call) ∧
          ∀ candidates picking rest selection,
            later.trace = ⟨.hostOnlyAdapters, .ok candidates⟩ :: (picking ++ rest) →
            Runs (choose table spec.subnet candidates).run picking (some (.ok selection)) →
            TakesOver adapter ip selection := by
  constructor
  · have settled : Settled table spec.subnet initial host _ := settled_of_retries (.inl rfl) listed
    calc (retries.flatMap (·.trace)).countP Exchange.creates
        = ((retries.flatMap (·.trace)).foldl createdAfter []).length := by
          rw [length_foldl_createdAfter, List.length_nil, Nat.zero_add]
      _ ≤ 1 := settled.length_le
  · rintro before retry after rfl ip adapter hcreated later hlater
    rw [List.flatMap_append, List.flatMap_cons] at listed
    obtain ⟨hbefore, hrest⟩ := along_append.1 listed
    obtain ⟨hretry, hafter⟩ := along_append.1 hrest
    obtain ⟨hmade, placed⟩ := placed_of_created (sourcing_of_runs retry.run)
      (settled_of_retries (.inl rfl) hbefore) hretry hcreated
    rw [hmade] at hafter
    have hlisted := listed_of_later placed hafter hlater
    refine ⟨fun x hx => uses_of_sourcing (sourcing_of_runs later.run) placed hlisted hx, ?_⟩
    intro candidates picking rest selection htrace run
    rw [htrace] at hlisted
    exact takesOver_of_runs_choose placed hlisted run

/-- The first registration creates an adapter and fails at the resources of its VM. The
second one takes the adapter over. -/
theorem retry_takes_adapter_over :
    let created : Interface := ⟨"vboxnet0", ⟨192, 168, 11, 1⟩, "0a:00:27:00:00:00", true⟩
    let spec : NewVm := ⟨⟨4096, 2⟩, none⟩
    let first : List Exchange :=
      [⟨.hostOnlyAdapters, .ok []⟩, ⟨.hostInterfaces, .ok []⟩,
       ⟨.createAdapter ⟨192, 168, 11, 1⟩, .ok "vboxnet0"⟩, ⟨.register "pcfdev-v1" "a.ova", .ok ()⟩,
       ⟨.setResources "pcfdev-v1" ⟨4096, 2⟩, .error (.hypervisor "locked")⟩,
       ⟨.unregister "pcfdev-v1", .ok ()⟩]
    let second : List Exchange :=
      [⟨.hostOnlyAdapters, .ok [created]⟩, ⟨.hostInterfaces, .ok [created]⟩,
       ⟨.probe ⟨192, 168, 11, 11⟩, .ok false⟩, ⟨.register "pcfdev-v1" "a.ova", .ok ()⟩,
       ⟨.setResources "pcfdev-v1" ⟨4096, 2⟩, .ok ()⟩,
       ⟨.attachAdapter "vboxnet0" "pcfdev-v1", .ok ()⟩, ⟨.unusedPort, .ok 2222⟩,
       ⟨.addForwarding "pcfdev-v1" "ssh" 2222 22, .ok ()⟩]
    Runs (register .builtIn "pcfdev-v1" "a.ova" spec).run first
        (some (.error (.hypervisor "locked"))) ∧
      Runs (register .builtIn "pcfdev-v1" "a.ova" spec).run second (some (.ok ())) ∧
      Listed [] [] [] (first ++ second) ∧
      TakesOver "vboxnet0" ⟨192, 168, 11, 1⟩ ⟨created, true⟩ := by
  intro created spec first second
  have failed : Runs (register .builtIn "pcfdev-v1" "a.ova" spec).run first
      (some (.error (.hypervisor "locked"))) :=
    .note (.ask _ (.ask _ (.note (.note (.ask _ (.note (.ask _ (.ask _ (.note (.ask _
      (.done _)))))))))))
  have picked : Runs (choose .builtIn none [created]).run
      [⟨.hostInterfaces, .ok [created]⟩, ⟨.probe ⟨192, 168, 11, 11⟩, .ok false⟩]
      (some (.ok ⟨created, true⟩)) :=
    .ask _ (.note (.ask _ (.note (.done _))))
  have succeeded : Runs (register .builtIn "pcfdev-v1" "a.ova" spec).run second
      (some (.ok ())) :=
    .note (.ask _ (.ask _ (.note (.ask _ (.note (.ask _ (.ask _ (.ask _ (.ask _ (.ask _
      (.note (.done _))))))))))))
  have listed : Listed [] [] [] (first ++ second) := by
    refine ⟨⟨by simp, [], rfl, .refl _⟩, .inl (.refl _), trivial, trivial, trivial, trivial,
      ⟨by simp [created], [created], rfl, .refl _⟩, .inr ⟨[created], rfl, .refl _⟩, nofun,
      trivial, trivial, trivial, trivial, trivial, trivial⟩
  obtain ⟨-, hreuse⟩ := retries_create_once [] []
    [⟨_, _, first, _, failed⟩, ⟨_, _, second, _, succeeded⟩] listed
  have hlater := (hreuse [] _ [_] rfl ⟨192, 168, 11, 1⟩ "vboxnet0" (by simp [first]) _
    List.mem_cons_self).2
  exact ⟨failed, succeeded, listed, hlater _ _ _ _ rfl picked⟩

end Hypervisor

end VmLifecycle
