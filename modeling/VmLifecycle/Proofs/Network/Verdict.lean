import VmLifecycle.Proofs.Network.FirstFit

/-!
# First fit, exactly

Once it is settled who answers at which address, each subnet has a verdict, and a
selection is the first verdict that is not a pass, in the order of the subnets. Up
to there it probes every subnet with an adapter to take over, and no other one.

The selection in a subnet that was asked for is the case of a single subnet.
-/

namespace VmLifecycle.Selection

open Program

/-- What a selection goes by: the adapters that the hypervisor has, the interfaces
of the host, and what a probe of an address is answered. -/
structure Scene where
  candidates : List Interface
  host : List Interface
  probe : Ipv4 → Except Fault Bool

/-- The subnets that are tried, in order. -/
def trials (table : AddressTable) : Option Ipv4 → List Ipv4
  | some subnet => [subnet]
  | none => table.subnets

/-- The exchange is answered by this listing of the host's interfaces and this prober. -/
def AnsweredBy (listing : Except Fault (List Interface)) (probe : Ipv4 → Except Fault Bool) :
    Exchange → Prop
  | ⟨.hostInterfaces, reply⟩ => reply = listing
  | ⟨.probe ip, reply⟩ => reply = probe ip
  | _ => True

namespace Scene

variable (scene : Scene)

/-- The subnet has an adapter, and no two interfaces of the host share its address. -/
def Probed (subnet : Ipv4) : Prop :=
  (∃ candidate ∈ scene.candidates, candidate.ip = subnet) ∧ countAt scene.host subnet ≤ 1

instance : DecidablePred scene.Probed := fun _ => inferInstanceAs (Decidable (_ ∧ _))

/-- The adapter of the subnet can be taken over. -/
def Reusable (subnet : Ipv4) : Prop :=
  scene.Probed subnet ∧ scene.probe subnet.vmAddress = .ok false

/-- The subnet can be given a new adapter. -/
def Claimable (subnet : Ipv4) : Prop :=
  ¬ scene.Reusable subnet ∧ countAt scene.host subnet = 0

/-- The subnet is probed, and the probe fails. -/
def Unanswered (subnet : Ipv4) (fault : Fault) : Prop :=
  scene.Probed subnet ∧ scene.probe subnet.vmAddress = .error fault

/-- The walk goes past the subnet. -/
structure Passed (subnet : Ipv4) : Prop where
  notReusable : ¬ scene.Reusable subnet
  notClaimable : ¬ scene.Claimable subnet
  answered : ∀ fault, ¬ scene.Unanswered subnet fault

/-- The probes of those of the subnets that are probed. -/
def probes (subnets : List Ipv4) : List Exchange :=
  (subnets.filter (scene.Probed ·)).map fun subnet =>
    ⟨.probe subnet.vmAddress, scene.probe subnet.vmAddress⟩

/-- What the trial of a subnet comes to. -/
def verdict (subnet : Ipv4) : Except Fault (Option Selection) :=
  if scene.Probed subnet then
    (scene.probe subnet.vmAddress).map fun alive =>
      if alive then claim? subnet scene.host
      else (scene.candidates.find? (·.ip = subnet)).map (⟨·, true⟩)
  else .ok (claim? subnet scene.host)

/-- The subnets that are tried up to the first verdict that is not a pass. -/
def examined : List Ipv4 → List Ipv4
  | [] => []
  | subnet :: subnets =>
    subnet :: match scene.verdict subnet with
      | .ok none => examined subnets
      | _ => []

/-- The first verdict that is not a pass. -/
def outcome : List Ipv4 → Except Fault (Option Selection)
  | [] => .ok none
  | subnet :: subnets =>
    match scene.verdict subnet with
    | .ok none => outcome subnets
    | decided => decided

variable {scene} {subnet : Ipv4} {subnets : List Ipv4} {trace : List Exchange}

/-! ## Verdicts -/

theorem find?_of_probed (h : scene.Probed subnet) :
    ∃ candidate, scene.candidates.find? (·.ip = subnet) = some candidate := by
  obtain ⟨candidate, hmem, hip⟩ := h.1
  have hsome : (scene.candidates.find? (·.ip = subnet)).isSome := by
    rw [List.find?_isSome]
    exact ⟨candidate, hmem, by simpa using hip⟩
  exact Option.isSome_iff_exists.1 hsome

theorem verdict_eq_error {fault : Fault} :
    scene.verdict subnet = .error fault ↔ scene.Unanswered subnet fault := by
  unfold verdict Unanswered
  by_cases hprobed : scene.Probed subnet
  · rw [if_pos hprobed, and_iff_right hprobed]
    cases scene.probe subnet.vmAddress <;> simp [Except.map]
  · simp [hprobed]

theorem verdict_of_reusable (h : scene.Reusable subnet) :
    scene.verdict subnet =
      .ok ((scene.candidates.find? (·.ip = subnet)).map (⟨·, true⟩)) := by
  rw [verdict, if_pos h.1, h.2]
  rfl

/-- Where no adapter is taken over and no probe fails, it counts whether the host is
in the subnet. -/
theorem verdict_of_not_reusable (h : ¬ scene.Reusable subnet)
    (hanswered : ∀ fault, ¬ scene.Unanswered subnet fault) :
    scene.verdict subnet = .ok (claim? subnet scene.host) := by
  unfold verdict
  by_cases hprobed : scene.Probed subnet
  · rw [if_pos hprobed]
    cases hreply : scene.probe subnet.vmAddress with
    | error fault => exact absurd ⟨hprobed, hreply⟩ (hanswered fault)
    | ok alive =>
        cases alive with
        | true => rfl
        | false => exact absurd ⟨hprobed, hreply⟩ h
  · rw [if_neg hprobed]

theorem verdict_of_claimable (h : scene.Claimable subnet)
    (hanswered : ∀ fault, ¬ scene.Unanswered subnet fault) :
    scene.verdict subnet = .ok (some ⟨.planned subnet, false⟩) := by
  rw [verdict_of_not_reusable h.1 hanswered, claim?_eq_some.2 ⟨h.2, rfl⟩]

theorem verdict_eq_pass : scene.verdict subnet = .ok none ↔ scene.Passed subnet := by
  constructor
  · intro hpass
    have hanswered (fault : Fault) : ¬ scene.Unanswered subnet fault := by
      rw [← verdict_eq_error, hpass]
      exact nofun
    have hreusable : ¬ scene.Reusable subnet := by
      intro h
      obtain ⟨candidate, hfound⟩ := find?_of_probed h.1
      rw [verdict_of_reusable h, hfound] at hpass
      cases hpass
    refine ⟨hreusable, fun hclaim => ?_, hanswered⟩
    rw [verdict_of_claimable hclaim hanswered] at hpass
    cases hpass
  · intro h
    have hused : countAt scene.host subnet ≠ 0 := fun hfree => h.notClaimable ⟨h.notReusable, hfree⟩
    rw [verdict_of_not_reusable h.notReusable h.answered, claim?_eq_none.2 hused]

/-! ## The first verdict that is not a pass -/

theorem examined_cons_of_passed (h : scene.Passed subnet) :
    scene.examined (subnet :: subnets) = subnet :: scene.examined subnets := by
  rw [examined, verdict_eq_pass.2 h]

theorem outcome_cons_of_passed (h : scene.Passed subnet) :
    scene.outcome (subnet :: subnets) = scene.outcome subnets := by
  rw [outcome, verdict_eq_pass.2 h]

theorem examined_cons_of_not_passed (h : ¬ scene.Passed subnet) :
    scene.examined (subnet :: subnets) = [subnet] := by
  rw [← verdict_eq_pass] at h
  rw [examined]
  split
  · rename_i hpass
    exact absurd hpass h
  · rfl

theorem outcome_cons_of_not_passed (h : ¬ scene.Passed subnet) :
    scene.outcome (subnet :: subnets) = scene.verdict subnet := by
  rw [← verdict_eq_pass] at h
  rw [outcome]
  split
  · rename_i hpass
    exact absurd hpass h
  · rfl

theorem walk_of_passed (h : ∀ s ∈ subnets, scene.Passed s) :
    scene.examined subnets = subnets ∧ scene.outcome subnets = .ok none := by
  induction subnets with
  | nil => exact ⟨rfl, rfl⟩
  | cons subnet subnets ih =>
      obtain ⟨hpass, hrest⟩ := List.forall_mem_cons.1 h
      rw [examined_cons_of_passed hpass, outcome_cons_of_passed hpass, (ih hrest).1, (ih hrest).2]
      exact ⟨rfl, rfl⟩

theorem walk_of_split {before after : List Ipv4} (hbefore : ∀ s ∈ before, scene.Passed s)
    (h : ¬ scene.Passed subnet) :
    scene.examined (before ++ subnet :: after) = before ++ [subnet] ∧
      scene.outcome (before ++ subnet :: after) = scene.verdict subnet := by
  induction before with
  | nil => exact ⟨examined_cons_of_not_passed h, outcome_cons_of_not_passed h⟩
  | cons s before ih =>
      obtain ⟨hpass, hrest⟩ := List.forall_mem_cons.1 hbefore
      rw [List.cons_append, examined_cons_of_passed hpass, outcome_cons_of_passed hpass,
        (ih hrest).1, (ih hrest).2]
      exact ⟨rfl, rfl⟩

/-- The walk passes over all subnets, or there is a first that it does not pass over. -/
theorem passed_or_split (scene : Scene) (subnets : List Ipv4) :
    (∀ s ∈ subnets, scene.Passed s) ∨
      ∃ before subnet after, subnets = before ++ subnet :: after ∧
        (∀ s ∈ before, scene.Passed s) ∧ ¬ scene.Passed subnet := by
  induction subnets with
  | nil => exact .inl (List.forall_mem_nil _)
  | cons s subnets ih =>
      by_cases hpass : scene.Passed s
      · rcases ih with hall | ⟨before, subnet, after, rfl, hbefore, hnot⟩
        · exact .inl (List.forall_mem_cons.2 ⟨hpass, hall⟩)
        · have hpassed : ∀ t ∈ s :: before, scene.Passed t :=
            List.forall_mem_cons.2 ⟨hpass, hbefore⟩
          exact .inr ⟨s :: before, subnet, after, rfl, hpassed, hnot⟩
      · exact .inr ⟨[], s, subnets, rfl, List.forall_mem_nil _, hpass⟩

end Scene

/-! ## The runs of a selection -/

section

variable {candidates host : List Interface} {table : AddressTable} {requested : Option Ipv4}
  {listing : Except Fault (List Interface)} {probe : Ipv4 → Except Fault Bool}
  {subnet : Ipv4} {subnets : List Ipv4} {trace : List Exchange}
  {r : Option (Except Fault (Option Selection))}

theorem runs_inSubnet?_of_probed (h : Scene.Probed ⟨candidates, host, probe⟩ subnet) :
    Runs (inSubnet? subnet candidates host).run trace r ↔
      ∃ reply, trace = [⟨.probe subnet.vmAddress, reply⟩] ∧
        r = some (reply.map fun alive =>
          if alive then claim? subnet host
          else (candidates.find? (·.ip = subnet)).map (⟨·, true⟩)) := by
  obtain ⟨candidate, hfound⟩ := Scene.find?_of_probed h
  have hunique : ¬ 1 < countAt host subnet := Nat.not_lt.2 h.2
  rw [runs_inSubnet?]
  simp only [hfound, hunique, if_false, Option.map_some]

theorem runs_inSubnet?_of_not_probed (h : ¬ Scene.Probed ⟨candidates, host, probe⟩ subnet) :
    Runs (inSubnet? subnet candidates host).run trace r ↔
      trace = [] ∧ r = some (.ok (claim? subnet host)) := by
  rw [runs_inSubnet?]
  cases hfound : candidates.find? (·.ip = subnet) with
  | none => rfl
  | some candidate =>
      -- there is an adapter, so its address is not the only one on the host
      have hshared : 1 < countAt host subnet := by
        refine Nat.not_le.1 fun hunique => h ⟨⟨candidate, ?_, ?_⟩, hunique⟩
        · exact List.mem_of_find?_eq_some hfound
        · simpa using List.find?_some hfound
      have hused : claim? subnet host = none := claim?_eq_none.2 (by omega)
      simp only [hshared, if_true, hused]

theorem Scene.answered_of_mem_probes {scene : Scene} {x : Exchange}
    (hx : x ∈ scene.probes subnets) : AnsweredBy listing scene.probe x := by
  obtain ⟨subnet, -, rfl⟩ := List.mem_map.1 hx
  rfl

theorem Scene.probes_cons (scene : Scene) (subnet : Ipv4) (subnets : List Ipv4) :
    scene.probes (subnet :: subnets) = scene.probes [subnet] ++ scene.probes subnets := by
  rw [probes, probes, probes, ← List.map_append, ← List.filter_append, List.singleton_append]

/-- Where the answers are settled, a trial has one run. -/
theorem runs_inSubnet?_answered :
    (Runs (inSubnet? subnet candidates host).run trace r ∧
        ∀ x ∈ trace, AnsweredBy listing probe x) ↔
      trace = Scene.probes ⟨candidates, host, probe⟩ [subnet] ∧
        r = some (Scene.verdict ⟨candidates, host, probe⟩ subnet) := by
  by_cases hprobed : Scene.Probed ⟨candidates, host, probe⟩ subnet
  · rw [runs_inSubnet?_of_probed hprobed, Scene.verdict, if_pos hprobed]
    constructor
    · rintro ⟨⟨reply, rfl, rfl⟩, hanswered⟩
      obtain rfl : reply = probe subnet.vmAddress := hanswered _ List.mem_cons_self
      simp [Scene.probes, hprobed]
    · rintro ⟨rfl, rfl⟩
      simp [Scene.probes, hprobed, AnsweredBy]
  · rw [runs_inSubnet?_of_not_probed hprobed, Scene.verdict, if_neg hprobed]
    constructor
    · rintro ⟨⟨rfl, rfl⟩, -⟩
      simp [Scene.probes, hprobed]
    · rintro ⟨rfl, rfl⟩
      simp [Scene.probes, hprobed]

/-- Where the answers are settled, a walk tries the subnets up to the first verdict that
is not a pass. -/
theorem walk_of_runs_firstFit? (run : Runs (firstFit? candidates host subnets).run trace r)
    (hanswered : ∀ x ∈ trace, AnsweredBy listing probe x) :
    trace = Scene.probes ⟨candidates, host, probe⟩
        (Scene.examined ⟨candidates, host, probe⟩ subnets) ∧
      r = some (Scene.outcome ⟨candidates, host, probe⟩ subnets) := by
  induction subnets generalizing trace r with
  | nil => exact runs_done.1 run
  | cons subnet subnets ih =>
      rw [runs_firstFit?_cons] at run
      rcases runs_run_bind.1 run with ⟨found, first, second, rfl, hfirst, hsecond⟩ |
        ⟨fault, hfirst, rfl⟩ | ⟨hfirst, -⟩
      · rw [List.forall_mem_append] at hanswered
        obtain ⟨rfl, hverdict⟩ := runs_inSubnet?_answered.1 ⟨hfirst, hanswered.1⟩
        have hverdict := (Option.some.inj hverdict).symm
        cases found with
        | some selection =>
            obtain ⟨rfl, rfl⟩ := runs_done.1 hsecond
            simp only [Scene.examined, Scene.outcome, hverdict, List.append_nil, and_self]
        | none =>
            obtain ⟨rfl, rfl⟩ := ih hsecond hanswered.2
            simp only [Scene.examined, Scene.outcome, hverdict, and_true]
            exact (Scene.probes_cons _ _ _).symm
      · obtain ⟨rfl, hverdict⟩ := runs_inSubnet?_answered.1 ⟨hfirst, hanswered⟩
        have hverdict := (Option.some.inj hverdict).symm
        simp only [Scene.examined, Scene.outcome, hverdict, and_self]
      · cases (runs_inSubnet?_answered.1 ⟨hfirst, hanswered⟩).2

theorem runs_firstFit?_walk (scene : Scene) (subnets : List Ipv4) :
    Runs (firstFit? scene.candidates scene.host subnets).run
      (scene.probes (scene.examined subnets)) (some (scene.outcome subnets)) := by
  induction subnets with
  | nil => exact .done _
  | cons subnet subnets ih =>
      obtain ⟨hfirst, -⟩ : Runs (inSubnet? subnet scene.candidates scene.host).run
            (scene.probes [subnet]) (some (scene.verdict subnet)) ∧
          ∀ x ∈ scene.probes [subnet], AnsweredBy (.ok scene.host) scene.probe x :=
        runs_inSubnet?_answered.2 ⟨rfl, rfl⟩
      rw [runs_firstFit?_cons]
      cases hverdict : scene.verdict subnet with
      | error fault =>
          rw [hverdict] at hfirst
          simp only [Scene.examined, Scene.outcome, hverdict]
          exact runs_run_bind.2 (.inr (.inl ⟨fault, hfirst, rfl⟩))
      | ok found =>
          rw [hverdict] at hfirst
          cases found with
          | some selection =>
              simp only [Scene.examined, Scene.outcome, hverdict]
              rw [← List.append_nil (scene.probes _)]
              exact (runs_run_bind_append hfirst).2 (.done _)
          | none =>
              simp only [Scene.examined, Scene.outcome, hverdict]
              rw [Scene.probes_cons]
              exact (runs_run_bind_append hfirst).2 ih

/-- Where the answers are settled, a walk has one run. -/
theorem runs_firstFit?_answered :
    (Runs (firstFit? candidates host subnets).run trace r ∧
        ∀ x ∈ trace, AnsweredBy listing probe x) ↔
      trace = Scene.probes ⟨candidates, host, probe⟩
          (Scene.examined ⟨candidates, host, probe⟩ subnets) ∧
        r = some (Scene.outcome ⟨candidates, host, probe⟩ subnets) := by
  constructor
  · exact fun h => walk_of_runs_firstFit? h.1 h.2
  · rintro ⟨rfl, rfl⟩
    exact ⟨runs_firstFit?_walk ⟨candidates, host, probe⟩ subnets,
      fun x hx => Scene.answered_of_mem_probes hx⟩

/-- A walk over one subnet is its trial. -/
theorem firstFit?_singleton :
    firstFit? candidates host [subnet] = inSubnet? subnet candidates host := by
  unfold firstFit?
  refine (bind_congr fun found => ?_).trans (bind_pure _)
  cases found <;> rfl

/-- The selection that was found, or what there is to say if none was. -/
def settle (refusal : Fault) : Option Selection → Except Fault Selection
  | some selection => .ok selection
  | none => .error refusal

theorem run_settle {search : Attempt (Option Selection)} {refusal : Fault} :
    (search >>= fun found => match found with
        | some selection => pure selection
        | none => throw refusal).run =
      search.run.bind fun found => .done (found.bind (settle refusal)) := by
  rw [run_bind]
  congr 1
  funext found
  rcases found with fault | _ | selection <;> rfl

theorem runs_settle {own : Fault → Prop} {search : Attempt (Option Selection)} {refusal : Fault}
    {r : Option (Except Fault Selection)} (hsearch : FailStop own search.run) :
    Runs (search >>= fun found => match found with
        | some selection => pure selection
        | none => throw refusal).run trace r ↔
      ∃ found, Runs search.run trace (some found) ∧ r = some (found.bind (settle refusal)) := by
  rw [run_settle, runs_bind_done]
  constructor
  · rintro ⟨_ | found, run, rfl⟩
    · exact absurd run hsearch.not_runs_none
    · exact ⟨found, run, rfl⟩
  · rintro ⟨found, run, rfl⟩
    exact ⟨some found, run, rfl⟩

/-- A selection lists the interfaces of the host and walks over its subnets. -/
theorem runs_choose {r : Option (Except Fault Selection)} :
    Runs (choose table requested candidates).run trace r ↔
      ∃ reply rest, trace = ⟨.hostInterfaces, reply⟩ :: rest ∧
        match reply with
        | .error fault => rest = [] ∧ r = some (.error fault)
        | .ok host => ∃ found,
          Runs (firstFit? candidates host (trials table requested)).run rest (some found) ∧
            r = some (found.bind (settle (refusal requested))) := by
  have hsearch (host : List Interface) :
      FailStop (fun _ => False) (firstFit? candidates host (trials table requested)).run :=
    failStop_firstFit? _
  cases requested with
  | some subnet =>
      refine runs_ask.trans ?_
      refine exists_congr fun reply => exists_congr fun rest => and_congr_right fun _ => ?_
      rcases reply with fault | host
      · exact runs_done
      · simp only [trials, firstFit?_singleton] at hsearch ⊢
        exact runs_settle (hsearch host)
  | none =>
      refine runs_ask.trans ?_
      refine exists_congr fun reply => exists_congr fun rest => and_congr_right fun _ => ?_
      rcases reply with fault | host
      · exact runs_done
      · exact runs_note.trans (runs_settle (hsearch host))

theorem runs_choose_unlisted {r : Option (Except Fault Selection)} {fault : Fault} :
    (Runs (choose table requested candidates).run trace r ∧
        ∀ x ∈ trace, AnsweredBy (.error fault) probe x) ↔
      trace = [⟨.hostInterfaces, .error fault⟩] ∧ r = some (.error fault) := by
  rw [runs_choose]
  constructor
  · rintro ⟨⟨reply, rest, rfl, hrest⟩, hanswered⟩
    obtain rfl : reply = .error fault := hanswered _ List.mem_cons_self
    obtain ⟨rfl, rfl⟩ := hrest
    exact ⟨rfl, rfl⟩
  · rintro ⟨rfl, rfl⟩
    exact ⟨⟨_, [], rfl, rfl, rfl⟩, by simp [AnsweredBy]⟩

/-- Where the answers are settled, a selection whose walk is that of a scene has the one
run that the scene comes to. -/
theorem runs_choose_answered {r : Option (Except Fault Selection)} (scene : Scene)
    (hwalk : firstFit? candidates host (trials table requested) =
      firstFit? scene.candidates scene.host (trials table requested)) :
    (Runs (choose table requested candidates).run trace r ∧
        ∀ x ∈ trace, AnsweredBy (.ok host) scene.probe x) ↔
      trace = ⟨.hostInterfaces, .ok host⟩ ::
          scene.probes (scene.examined (trials table requested)) ∧
        r = some ((scene.outcome (trials table requested)).bind
          (settle (refusal requested))) := by
  rw [runs_choose]
  constructor
  · rintro ⟨⟨reply, rest, rfl, hrest⟩, hanswered⟩
    obtain ⟨hlisted, hprobed⟩ := List.forall_mem_cons.1 hanswered
    obtain rfl : reply = .ok host := hlisted
    obtain ⟨found, hrun, rfl⟩ := hrest
    rw [hwalk] at hrun
    obtain ⟨rfl, hfound⟩ := runs_firstFit?_answered.1 ⟨hrun, hprobed⟩
    cases hfound
    exact ⟨rfl, rfl⟩
  · rintro ⟨rfl, rfl⟩
    obtain ⟨hrun, hprobed⟩ := runs_firstFit?_answered.2 ⟨rfl, rfl⟩
    refine ⟨⟨_, _, rfl, _, ?_, rfl⟩, List.forall_mem_cons.2 ⟨rfl, hprobed⟩⟩
    rwa [hwalk]

/-- The first subnet that fits, and the probes up to it. -/
inductive FirstFit (scene : Scene) (subnets : List Ipv4) (refusal : Fault) :
    List Exchange → Except Fault Selection → Prop
  | reused {before after : List Ipv4} {subnet : Ipv4} {candidate : Interface}
      (hsplit : subnets = before ++ subnet :: after) (hbefore : ∀ s ∈ before, scene.Passed s)
      (hreusable : scene.Reusable subnet)
      (hfirst : scene.candidates.find? (·.ip = subnet) = some candidate) :
      FirstFit scene subnets refusal (scene.probes (before ++ [subnet])) (.ok ⟨candidate, true⟩)
  | claimed {before after : List Ipv4} {subnet : Ipv4}
      (hsplit : subnets = before ++ subnet :: after) (hbefore : ∀ s ∈ before, scene.Passed s)
      (hclaimable : scene.Claimable subnet) (hanswered : ∀ fault, ¬ scene.Unanswered subnet fault) :
      FirstFit scene subnets refusal (scene.probes (before ++ [subnet]))
        (.ok ⟨.planned subnet, false⟩)
  | failed {before after : List Ipv4} {subnet : Ipv4} {fault : Fault}
      (hsplit : subnets = before ++ subnet :: after) (hbefore : ∀ s ∈ before, scene.Passed s)
      (hfault : scene.Unanswered subnet fault) :
      FirstFit scene subnets refusal (scene.probes (before ++ [subnet])) (.error fault)
  | exhausted (hall : ∀ s ∈ subnets, scene.Passed s) :
      FirstFit scene subnets refusal (scene.probes subnets) (.error refusal)

theorem Scene.not_passed_of_unanswered {scene : Scene} {fault : Fault}
    (h : scene.Unanswered subnet fault) : ¬ scene.Passed subnet :=
  fun hpassed => hpassed.answered fault h

theorem firstFit_iff {scene : Scene} {refusal : Fault} {result : Except Fault Selection} :
    FirstFit scene subnets refusal trace result ↔
      trace = scene.probes (scene.examined subnets) ∧
        result = (scene.outcome subnets).bind (settle refusal) := by
  constructor
  · intro h
    cases h with
    | reused hsplit hbefore hreusable hfirst =>
        subst hsplit
        obtain ⟨hexamined, houtcome⟩ := Scene.walk_of_split hbefore fun h => h.notReusable hreusable
        rw [hexamined, houtcome, Scene.verdict_of_reusable hreusable, hfirst]
        exact ⟨rfl, rfl⟩
    | claimed hsplit hbefore hclaimable hanswered =>
        subst hsplit
        obtain ⟨hexamined, houtcome⟩ :=
          Scene.walk_of_split hbefore fun h => h.notClaimable hclaimable
        rw [hexamined, houtcome, Scene.verdict_of_claimable hclaimable hanswered]
        exact ⟨rfl, rfl⟩
    | failed hsplit hbefore hfault =>
        subst hsplit
        obtain ⟨hexamined, houtcome⟩ :=
          Scene.walk_of_split hbefore (Scene.not_passed_of_unanswered hfault)
        rw [hexamined, houtcome, Scene.verdict_eq_error.2 hfault]
        exact ⟨rfl, rfl⟩
    | exhausted hall =>
        obtain ⟨hexamined, houtcome⟩ := Scene.walk_of_passed hall
        rw [hexamined, houtcome]
        exact ⟨rfl, rfl⟩
  · rintro ⟨rfl, rfl⟩
    rcases scene.passed_or_split subnets with hall | ⟨before, subnet, after, rfl, hbefore, hnot⟩
    · obtain ⟨hexamined, houtcome⟩ := Scene.walk_of_passed hall
      rw [hexamined, houtcome]
      exact .exhausted hall
    · obtain ⟨hexamined, houtcome⟩ := Scene.walk_of_split hbefore hnot
      rw [hexamined, houtcome]
      by_cases hreusable : scene.Reusable subnet
      · obtain ⟨candidate, hfirst⟩ := Scene.find?_of_probed hreusable.1
        rw [Scene.verdict_of_reusable hreusable, hfirst]
        exact .reused rfl hbefore hreusable hfirst
      · by_cases hanswered : ∀ fault, ¬ scene.Unanswered subnet fault
        · have hclaimable : scene.Claimable subnet :=
            Classical.not_not.1 fun hclaim => hnot ⟨hreusable, hclaim, hanswered⟩
          rw [Scene.verdict_of_claimable hclaimable hanswered]
          exact .claimed rfl hbefore hclaimable hanswered
        · obtain ⟨fault, hfault⟩ := Classical.not_forall_not.1 hanswered
          rw [Scene.verdict_eq_error.2 hfault]
          exact .failed rfl hbefore hfault

theorem FirstFit.error_iff {scene : Scene} {result : Except Fault Selection}
    (h : FirstFit scene subnets (refusal requested) trace result)
    (hanswered : ∀ s ∈ subnets, ∀ fault, ¬ scene.Unanswered s fault) :
    result = .error (refusal requested) ↔
      ∀ s ∈ subnets, ¬ scene.Reusable s ∧ ¬ scene.Claimable s := by
  cases h with
  | reused hsplit _ hreusable =>
      refine iff_of_false nofun fun hnone => (hnone _ ?_).1 hreusable
      simp [hsplit]
  | claimed hsplit _ hclaimable =>
      refine iff_of_false nofun fun hnone => (hnone _ ?_).2 hclaimable
      simp [hsplit]
  | failed hsplit _ hfault => exact absurd hfault (hanswered _ (by simp [hsplit]) _)
  | exhausted hall =>
      exact iff_of_true rfl fun s hs => ⟨(hall s hs).notReusable, (hall s hs).notClaimable⟩

end

/-- Whatever a listing of the host's interfaces and a probe of each address are answered,
a selection has exactly one run. It lists the interfaces once, and a listing that fails
ends it. Then it takes the first subnet, in the order of the table, that is reusable or
claimable; the subnets up to there that have an adapter to take over are probed, no other
ones, and a probe that fails ends the selection. If no probe fails, the selection is
refused exactly where no subnet is reusable or claimable. A subnet that was asked for is
tried as the only one. -/
theorem selection_is_first_fit (table : AddressTable) (requested : Option Ipv4)
    (candidates : List Interface) (listing : Except Fault (List Interface))
    (probe : Ipv4 → Except Fault Bool) :
    match listing with
    | .error fault => ∀ trace r, (Runs (choose table requested candidates).run trace r ∧
        ∀ x ∈ trace, AnsweredBy listing probe x) ↔
          trace = [⟨.hostInterfaces, .error fault⟩] ∧ r = some (.error fault)
    | .ok host =>
      let scene : Scene := ⟨candidates, host, probe⟩
      ∃ calls result, FirstFit scene (trials table requested) (refusal requested) calls result ∧
        (∀ trace r, (Runs (choose table requested candidates).run trace r ∧
          ∀ x ∈ trace, AnsweredBy listing probe x) ↔
            trace = ⟨.hostInterfaces, .ok host⟩ :: calls ∧ r = some result) ∧
        ((∀ s ∈ trials table requested, ∀ fault, ¬ scene.Unanswered s fault) →
          (result = .error (refusal requested) ↔
            ∀ s ∈ trials table requested, ¬ scene.Reusable s ∧ ¬ scene.Claimable s)) := by
  rcases listing with fault | host
  · exact fun _ _ => runs_choose_unlisted
  · have hfit : FirstFit ⟨candidates, host, probe⟩ (trials table requested)
        (refusal requested) _ _ :=
      firstFit_iff.2 ⟨rfl, rfl⟩
    exact ⟨_, _, hfit, fun _ _ => runs_choose_answered ⟨candidates, host, probe⟩ rfl,
      hfit.error_iff⟩

/-- The adapter of the first subnet has a namesake on the host, a VM answers behind that
of the second, and the third subnet is another interface's: the new adapter is planned
in the fourth. -/
theorem first_fit_behind_taken_subnets :
    let candidates : List Interface :=
      [.present "vboxnet0" ⟨192, 168, 11, 1⟩, .present "vboxnet1" ⟨192, 168, 22, 1⟩]
    let host : List Interface :=
      [.present "vboxnet0" ⟨192, 168, 11, 1⟩, .present "en4" ⟨192, 168, 11, 1⟩,
       .present "vboxnet1" ⟨192, 168, 22, 1⟩, .present "en5" ⟨192, 168, 33, 1⟩]
    let probe : Ipv4 → Except Fault Bool := fun ip => .ok (ip = ⟨192, 168, 22, 11⟩)
    let trace : List Exchange :=
      [⟨.hostInterfaces, .ok host⟩, ⟨.probe ⟨192, 168, 22, 11⟩, .ok true⟩]
    Runs (choose .builtIn none candidates).run trace
        (some (.ok ⟨.planned ⟨192, 168, 44, 1⟩, false⟩)) ∧
      FirstFit ⟨candidates, host, probe⟩ (trials .builtIn none) .noSubnetLeft
        [⟨.probe ⟨192, 168, 22, 11⟩, .ok true⟩] (.ok ⟨.planned ⟨192, 168, 44, 1⟩, false⟩) := by
  intro candidates host probe trace
  have run : Runs (choose .builtIn none candidates).run trace
      (some (.ok ⟨.planned ⟨192, 168, 44, 1⟩, false⟩)) :=
    .ask _ (.note (.note (.ask _ (.note (.note (.done _))))))
  have hanswered : ∀ x ∈ trace, AnsweredBy (.ok host) probe x := by
    simp [trace, AnsweredBy, probe]
  obtain ⟨calls, result, hfit, hruns, -⟩ :=
    selection_is_first_fit .builtIn none candidates (.ok host) probe
  obtain ⟨htrace, hresult⟩ := (hruns trace _).1 ⟨run, hanswered⟩
  obtain rfl : [⟨.probe ⟨192, 168, 22, 11⟩, .ok true⟩] = calls := (List.cons.inj htrace).2
  obtain rfl := Option.some.inj hresult
  exact ⟨run, hfit⟩

end VmLifecycle.Selection
