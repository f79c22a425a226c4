import VmLifecycle.Hypervisor
import VmLifecycle.Proofs.Effect.Along
import VmLifecycle.Proofs.Effect.FailStop
import VmLifecycle.Proofs.Hypervisor.RunStates

/-!
# Removing all VMs of the platform

The removal of one VM has four courses, as it is asked whether the VM runs, powered
off if it does, and removed. The removal of all goes through the names that the
hypervisor lists, passes over those that are not the platform's, and removes the VMs
of the others one after the other. It has no other course, so everything about it is
read off the list of the single removals: which VMs are gone in the end, and which
fault is reported.
-/

namespace VmLifecycle

open Program

variable {name : String} {names : List String} {trace : List Exchange}

/-- Under the exchange the VM that it unregisters goes away, and no other VM comes or
goes. -/
def HypervisorModel.Unregisters {σ : Type} (model : HypervisorModel σ) (machines : Machines σ)
    (x : Exchange) : Prop :=
  ∀ name, model.after machines x name = none ↔
    machines name = none ∨ x = ⟨.unregister name, .ok ()⟩

theorem HypervisorModel.afterAll_eq_none_iff {σ : Type} (model : HypervisorModel σ)
    {machines : Machines σ} (h : Along model.after model.Unregisters machines trace) :
    model.afterAll machines trace name = none ↔
      machines name = none ∨ ⟨.unregister name, .ok ()⟩ ∈ trace := by
  induction trace generalizing machines with
  | nil => simp [afterAll]
  | cons x trace ih =>
      calc model.afterAll (model.after machines x) trace name = none
          ↔ model.after machines x name = none ∨ ⟨.unregister name, .ok ()⟩ ∈ trace := ih h.2
        _ ↔ (machines name = none ∨ x = ⟨.unregister name, .ok ()⟩) ∨
              ⟨.unregister name, .ok ()⟩ ∈ trace := or_congr_left (h.1 name)
        _ ↔ machines name = none ∨ ⟨.unregister name, .ok ()⟩ ∈ x :: trace := by
          rw [or_assoc, List.mem_cons, eq_comm (a := x)]

/-- Calls about VMs that are there make no VM come, and none go but by its removal. -/
theorem runStates_unregisters {machines : Machines RunState} {x : Exchange}
    (h : ∀ name, x.call.changes? = some name → machines name ≠ none) :
    runStates.Unregisters machines x := by
  intro name
  constructor
  · intro hgone
    by_cases hthere : machines name = none
    · exact .inl hthere
    · exact .inr (Classical.not_not.1 fun hx => runStatesAfter_ne_none hthere hx hgone)
  · rintro (hthere | rfl)
    · rwa [runStates.after_of_ne machines x name fun hchanges => h name hchanges hthere]
    · exact Machines.set_self none

namespace Hypervisor

/-! ## Removing one VM -/

/-- The removal of one VM among all, with its result. -/
inductive Removal (name : String) : List Exchange → Except Fault Unit → Prop
  | unasked (fault : Fault) : Removal name [⟨.isRunning name, .error fault⟩] (.error fault)
  | running (fault : Fault) :
      Removal name [⟨.isRunning name, .ok true⟩, ⟨.powerOff name, .error fault⟩] (.error fault)
  | poweredOff (reply : Except Fault Unit) :
      Removal name
        [⟨.isRunning name, .ok true⟩, ⟨.powerOff name, .ok ()⟩, ⟨.unregister name, reply⟩] reply
  | idle (reply : Except Fault Unit) :
      Removal name [⟨.isRunning name, .ok false⟩, ⟨.unregister name, reply⟩] reply

theorem removal_of_runs {r : Option (Except Fault Unit)}
    (run : Runs (removeVm name).run trace r) :
    ∃ result, r = some result ∧ Removal name trace result := by
  obtain ⟨reply, rest, rfl, hrest⟩ := runs_ask.1 run
  rcases reply with fault | running
  · obtain ⟨rfl, rfl⟩ := runs_done.1 hrest
    exact ⟨_, rfl, .unasked fault⟩
  cases running with
  | false =>
      obtain ⟨reply, rfl, rfl⟩ := runs_call.1 hrest
      exact ⟨_, rfl, .idle reply⟩
  | true =>
      obtain ⟨reply, rest, rfl, hunregister⟩ := runs_ask.1 hrest
      rcases reply with fault | ⟨⟩
      · obtain ⟨rfl, rfl⟩ := runs_done.1 hunregister
        exact ⟨_, rfl, .running fault⟩
      · obtain ⟨reply, rfl, rfl⟩ := runs_call.1 hunregister
        exact ⟨_, rfl, .poweredOff reply⟩

theorem Removal.changes? {result : Except Fault Unit} (h : Removal name trace result)
    {x : Exchange} (hx : x ∈ trace) {other : String} (hother : x.call.changes? = some other) :
    other = name := by
  have hnames : ∀ x ∈ trace, ∀ other ∈ x.call.changes?, other = name := by
    cases h <;> simp [Call.changes?, eq_comm]
  exact hnames x hx other hother

theorem Removal.runs {result : Except Fault Unit} (h : Removal name trace result) :
    Runs (removeVm name).run trace (some result) := by
  cases h with
  | unasked => exact .ask _ (.done _)
  | running => exact .ask _ (.ask _ (.done _))
  | poweredOff => exact .ask _ (.ask _ (.ask _ (.done _)))
  | idle => exact .ask _ (.ask _ (.done _))

/-- The VM that was asked for, with its removal. -/
structure Removed where
  name : String
  trace : List Exchange
  result : Except Fault Unit
  course : Removal name trace result

namespace Removed

def fault? (removed : Removed) : Option Fault :=
  match removed.result with
  | .error fault => some fault
  | .ok () => none

/-- A removal ends in its first fault. -/
theorem firstFault?_trace (removed : Removed) : firstFault? removed.trace = removed.fault? := by
  obtain ⟨name, trace, result, course⟩ := removed
  cases course with
  | unasked => rfl
  | running => rfl
  | poweredOff => rcases result with fault | ⟨⟩ <;> rfl
  | idle => rcases result with fault | ⟨⟩ <;> rfl

/-- The calls of a removal are the three steps with its VM. -/
theorem call_of_mem (removed : Removed) {x : Exchange} (hx : x ∈ removed.trace) :
    x.call = .isRunning removed.name ∨ x.call = .powerOff removed.name ∨
      x.call = .unregister removed.name := by
  obtain ⟨name, trace, result, course⟩ := removed
  have hcalls : ∀ x ∈ trace, x.call = .isRunning name ∨ x.call = .powerOff name ∨
      x.call = .unregister name := by
    cases course <;> simp
  exact hcalls x hx

/-- A VM is unregistered by its own removal, if that meets no fault. -/
theorem unregister_mem_trace (removed : Removed) :
    ⟨.unregister name, .ok ()⟩ ∈ removed.trace ↔
      removed.name = name ∧ ∀ x ∈ removed.trace, x.fault? = none := by
  obtain ⟨other, trace, result, course⟩ := removed
  cases course with
  | unasked fault => simp [Exchange.fault?]
  | running fault => simp [Exchange.fault?]
  | poweredOff =>
      rcases result with fault | ⟨⟩
      · simp [Exchange.fault?]
      · simp [Exchange.fault?, eq_comm]
  | idle =>
      rcases result with fault | ⟨⟩
      · simp [Exchange.fault?]
      · simp [Exchange.fault?, eq_comm]

end Removed

/-! ## Removing each of a list -/

theorem removeEach_cons_of_inFamily {first : Option Fault}
    (h : VmName.inFamily name = true) {q : Option (Option Fault)} :
    Runs (removeEach first (name :: names)) trace q ↔
      ∃ (removed : Removed) (rest : List Exchange), removed.name = name ∧
        trace = removed.trace ++ rest ∧
        Runs (removeEach (first.or removed.fault?) names) rest q := by
  rw [removeEach, if_neg (by simpa using h)]
  constructor
  · intro run
    rcases (runs_bind (p := (removeVm name).run)).1 (runs_note.1 run) with
      ⟨result, one, rest, rfl, hone, hrest⟩ | ⟨hone, -⟩
    · obtain ⟨_, hresult, hremoval⟩ := removal_of_runs hone
      cases hresult
      refine ⟨⟨name, one, result, hremoval⟩, rest, rfl, rfl, ?_⟩
      rcases result with fault | ⟨⟩
      · simpa [Removed.fault?, Program.log] using hrest
      · simpa [Removed.fault?, Program.log] using hrest
    · obtain ⟨_, hresult, -⟩ := removal_of_runs hone
      cases hresult
  · rintro ⟨⟨_, one, result, hremoval⟩, rest, rfl, rfl, hrest⟩
    refine .note ((runs_bind_append hremoval.runs).2 ?_)
    rcases result with fault | ⟨⟩
    · simpa [Removed.fault?, Program.log] using hrest
    · simpa [Removed.fault?, Program.log] using hrest

theorem removeEach_cons_of_not_inFamily {first : Option Fault}
    (h : ¬ VmName.inFamily name = true) :
    removeEach first (name :: names) = removeEach first names := by
  rw [removeEach, if_pos (by simpa using h)]

/-- The VMs of the platform on a list are removed in order, each once, and the first
fault is kept. -/
theorem runs_removeEach {first : Option Fault} {q : Option (Option Fault)} :
    Runs (removeEach first names) trace q ↔ ∃ removals : List Removed,
      removals.map (·.name) = names.filter VmName.inFamily ∧
      trace = removals.flatMap (·.trace) ∧
      q = some (first.or (removals.findSome? (·.fault?))) := by
  induction names generalizing first trace with
  | nil =>
      constructor
      · intro run
        obtain ⟨rfl, rfl⟩ := runs_done.1 run
        exact ⟨[], rfl, rfl, by simp⟩
      · rintro ⟨removals, hnames, rfl, rfl⟩
        obtain rfl := List.map_eq_nil_iff.1 hnames
        exact runs_done.2 ⟨rfl, by simp⟩
  | cons name names ih =>
      by_cases hfamily : VmName.inFamily name = true
      · rw [removeEach_cons_of_inFamily hfamily, List.filter_cons_of_pos hfamily]
        constructor
        · rintro ⟨removed, rest, rfl, rfl, hrest⟩
          obtain ⟨removals, hnames, rfl, rfl⟩ := ih.1 hrest
          refine ⟨removed :: removals, by rw [List.map_cons, hnames], rfl, ?_⟩
          cases hfault : removed.fault? <;> simp [hfault]
        · rintro ⟨removals, hnames, rfl, rfl⟩
          obtain ⟨removed, removals, rfl, rfl, hrest⟩ := List.map_eq_cons_iff.1 hnames
          refine ⟨removed, removals.flatMap (·.trace), rfl, rfl, ih.2 ⟨removals, hrest, rfl, ?_⟩⟩
          cases hfault : removed.fault? <;> simp [hfault]
      · rw [removeEach_cons_of_not_inFamily hfamily, List.filter_cons_of_neg hfamily]
        exact ih

theorem firstFault?_flatMap (removals : List Removed) :
    firstFault? (removals.flatMap (·.trace)) = removals.findSome? (·.fault?) := by
  induction removals with
  | nil => rfl
  | cons removed removals ih =>
      rw [List.flatMap_cons, firstFault?_append, removed.firstFault?_trace, ih,
        List.findSome?_cons]
      cases removed.fault? <;> rfl

/-- The fault, if there was one. -/
def reported : Option Fault → Except Fault Unit
  | some fault => .error fault
  | none => .ok ()

theorem run_destroyAll : destroyAll.run = .ask .registered fun reply => match reply with
    | .error fault => .done (.error fault)
    | .ok names => (removeEach none names).bind fun found => .done (reported found) := by
  refine congrArg (Program.ask .registered) (funext fun reply => ?_)
  rcases reply with fault | names
  · rfl
  · refine (bind_assoc _ _ _).trans (congrArg (Program.bind _) (funext fun found => ?_))
    cases found <;> rfl

/-- A listing of the registered VMs, and removals. -/
def sweep (names : List String) (removals : List Removed) : List Exchange :=
  ⟨.registered, .ok names⟩ :: removals.flatMap (·.trace)

/-- The removal of all VMs has no other runs: a listing that fails ends it, and after
one that does not, each VM of the platform is removed once, in order. -/
theorem runs_destroyAll {r : Option (Except Fault Unit)} :
    Runs destroyAll.run trace r ↔
      (∃ fault, trace = [⟨.registered, .error fault⟩] ∧ r = some (.error fault)) ∨
        ∃ (names : List String) (removals : List Removed),
          removals.map (·.name) = names.filter VmName.inFamily ∧
          trace = sweep names removals ∧ r = some (reported (removals.findSome? (·.fault?))) := by
  rw [run_destroyAll]
  constructor
  · intro run
    obtain ⟨reply, rest, rfl, hrest⟩ := runs_ask.1 run
    rcases reply with fault | names
    · obtain ⟨rfl, rfl⟩ := runs_done.1 hrest
      exact .inl ⟨fault, rfl, rfl⟩
    · obtain ⟨found, hremoving, rfl⟩ := runs_bind_done.1 hrest
      obtain ⟨removals, hnames, rfl, rfl⟩ := runs_removeEach.1 hremoving
      exact .inr ⟨names, removals, hnames, rfl, by rw [Option.map_some, Option.none_or]⟩
  · rintro (⟨fault, rfl, rfl⟩ | ⟨names, removals, hnames, rfl, rfl⟩)
    · exact .ask _ (.done _)
    · refine .ask _ (runs_bind_done.2 ⟨_, runs_removeEach.2 ⟨removals, hnames, rfl, rfl⟩, ?_⟩)
      rw [Option.map_some, Option.none_or]

/-! ## What is gone, and what is reported -/

section

variable {removals : List Removed} {σ : Type} {model : HypervisorModel σ} {machines : Machines σ}

theorem calls_of_mem_sweep (hnames : removals.map (·.name) = names.filter VmName.inFamily)
    {x : Exchange} (hx : x ∈ sweep names removals) :
    x.call = .registered ∨ ∃ name ∈ names, VmName.inFamily name = true ∧
      (x.call = .isRunning name ∨ x.call = .powerOff name ∨ x.call = .unregister name) := by
  rcases List.mem_cons.1 hx with rfl | hx
  · exact .inl rfl
  · obtain ⟨removed, hremoved, hx⟩ := List.mem_flatMap.1 hx
    have hmem : removed.name ∈ removals.map (·.name) := List.mem_map_of_mem hremoved
    rw [hnames, List.mem_filter] at hmem
    exact .inr ⟨removed.name, hmem.1, hmem.2, removed.call_of_mem hx⟩

theorem firstFault?_sweep :
    firstFault? (sweep names removals) = removals.findSome? (·.fault?) :=
  firstFault?_flatMap removals

/-- A VM that is not the platform's stays as it is. -/
theorem afterAll_sweep_of_not_inFamily
    (hnames : removals.map (·.name) = names.filter VmName.inFamily)
    (hforeign : VmName.inFamily name = false) :
    model.afterAll machines (sweep names removals) name = machines name := by
  refine model.afterAll_of_ne fun x hx hchanges => ?_
  rcases calls_of_mem_sweep hnames hx with hcall | ⟨other, -, hfamily, hcall⟩
  · rw [hcall] at hchanges
    cases hchanges
  · have hsame : other = name := by
      rcases hcall with hcall | hcall | hcall <;> rw [hcall] at hchanges <;> cases hchanges <;> rfl
    rw [hsame, hforeign] at hfamily
    cases hfamily

theorem afterAll_sweep_eq_none_iff
    (h : Along model.after model.Unregisters machines (sweep names removals)) :
    model.afterAll machines (sweep names removals) name = none ↔ machines name = none ∨
      ∃ removed ∈ removals, removed.name = name ∧ ∀ x ∈ removed.trace, x.fault? = none := by
  rw [model.afterAll_eq_none_iff h]
  simp [sweep, Removed.unregister_mem_trace]

/-- Each VM of the platform has its removal. -/
theorem exists_removed (hnames : removals.map (·.name) = names.filter VmName.inFamily)
    (hlisted : name ∈ names) (hfamily : VmName.inFamily name = true) :
    ∃ removed ∈ removals, removed.name = name := by
  have hmem : name ∈ removals.map (·.name) := by
    rw [hnames]
    exact List.mem_filter.2 ⟨hlisted, hfamily⟩
  exact List.mem_map.1 hmem

/-- Where no removal met a fault, each VM of the platform was removed. -/
theorem exists_removed_of_reported_ok
    (hnames : removals.map (·.name) = names.filter VmName.inFamily)
    (hok : reported (removals.findSome? (·.fault?)) = .ok ()) (hlisted : name ∈ names)
    (hfamily : VmName.inFamily name = true) :
    ∃ removed ∈ removals, removed.name = name ∧ ∀ x ∈ removed.trace, x.fault? = none := by
  obtain ⟨removed, hremoved, hname⟩ := exists_removed hnames hlisted hfamily
  have hnone : removed.fault? = none := by
    cases hfound : removals.findSome? (·.fault?) with
    | none => exact List.findSome?_eq_none_iff.1 hfound removed hremoved
    | some fault =>
        rw [hfound] at hok
        cases hok
  rw [← removed.firstFault?_trace] at hnone
  exact ⟨removed, hremoved, hname, fun x hx => fault?_of_firstFault?_none hnone hx⟩

end

/-- What a removal of all VMs has done that was told the names of the registered ones. -/
structure Cleaned (names : List String) (removals : List Removed) (trace : List Exchange)
    (r : Option (Except Fault Unit)) : Prop where
  calls : trace = sweep names removals
  /-- Each VM of the platform is removed once, in the order of the list. -/
  inOrder : removals.map (·.name) = names.filter VmName.inFamily
  confined : ∀ x ∈ trace, x.call = .registered ∨ ∃ name ∈ names, VmName.inFamily name = true ∧
    (x.call = .isRunning name ∨ x.call = .powerOff name ∨ x.call = .unregister name)
  /-- The result is the first fault that was met, if there was one. -/
  result : r = some (reported (firstFault? trace))
  foreign : ∀ (σ : Type) (model : HypervisorModel σ) (machines : Machines σ) (name : String),
    VmName.inFamily name = false → model.afterAll machines trace name = machines name
  /-- The VMs that are gone are those that were removed without a fault. -/
  gone : ∀ (σ : Type) (model : HypervisorModel σ) (machines : Machines σ),
    Along model.after model.Unregisters machines trace → ∀ name,
      model.afterAll machines trace name = none ↔ machines name = none ∨
        ∃ removed ∈ removals, removed.name = name ∧ ∀ x ∈ removed.trace, x.fault? = none
  /-- If no fault is reported, no VM of the platform is left that was listed. -/
  complete : r = some (.ok ()) → ∀ (σ : Type) (model : HypervisorModel σ) (machines : Machines σ),
    Along model.after model.Unregisters machines trace → ∀ name ∈ names,
      VmName.inFamily name = true → model.afterAll machines trace name = none

/-- A removal of all VMs ends in the fault of the listing, with no other call, or it
removes each listed VM of the platform, in order and whatever became of those before:
it asks whether the VM runs, powers it off if it does, and unregisters it unless one of
the two failed. No other VM is touched. On a hypervisor where a VM goes away exactly if
it is unregistered, the VMs that are gone are those of which no call failed, and if no
fault is reported, all of them. -/
theorem cleanup_removes_family {r : Option (Except Fault Unit)}
    (run : Runs destroyAll.run trace r) :
    (∃ fault, trace = [⟨.registered, .error fault⟩] ∧ r = some (.error fault)) ∨
      ∃ names removals, Cleaned names removals trace r := by
  rcases runs_destroyAll.1 run with hlost | ⟨names, removals, hnames, rfl, rfl⟩
  · exact .inl hlost
  · refine .inr ⟨names, removals, rfl, hnames, fun x => calls_of_mem_sweep hnames, ?_,
      fun σ model machines name => afterAll_sweep_of_not_inFamily hnames,
      fun σ model machines h name => afterAll_sweep_eq_none_iff h,
      fun hok σ model machines h name hlisted hfamily => ?_⟩
    · rw [firstFault?_sweep]
    · refine (afterAll_sweep_eq_none_iff h).2 (.inr ?_)
      exact exists_removed_of_reported_ok hnames (Option.some.inj hok) hlisted hfamily

/-- The first VM of the platform runs and is locked. The other one is removed all the
same, and the VM between them runs on. -/
theorem cleanup_goes_past_locked_vm :
    let machines : Machines RunState := fun name =>
      if name = "pcfdev-a" then some .running
      else if name = "ubuntu" then some .running
      else if name = "pcfdev-b" then some .aborted
      else none
    let trace : List Exchange :=
      [⟨.registered, .ok ["pcfdev-a", "ubuntu", "pcfdev-b"]⟩,
       ⟨.isRunning "pcfdev-a", .ok true⟩, ⟨.powerOff "pcfdev-a", .ok ()⟩,
       ⟨.unregister "pcfdev-a", .error (.hypervisor "locked")⟩,
       ⟨.isRunning "pcfdev-b", .ok false⟩, ⟨.unregister "pcfdev-b", .ok ()⟩]
    Runs destroyAll.run trace (some (.error (.hypervisor "locked"))) ∧
      Along runStates.after runStates.Unregisters machines trace ∧
      (∃ removals, Cleaned ["pcfdev-a", "ubuntu", "pcfdev-b"] removals trace
        (some (.error (.hypervisor "locked")))) ∧
      runStates.afterAll machines trace "pcfdev-a" = some .poweredOff ∧
      runStates.afterAll machines trace "ubuntu" = some .running ∧
      runStates.afterAll machines trace "pcfdev-b" = none := by
  intro machines trace
  have run : Runs destroyAll.run trace (some (.error (.hypervisor "locked"))) :=
    .ask _ (.note (.ask _ (.ask _ (.ask _ (.note (.note (.ask _ (.ask _ (.done _)))))))))
  have honly : Along runStates.after runStates.Unregisters machines trace := by
    refine ⟨?_, ?_, ?_, ?_, ?_, ?_, trivial⟩
    all_goals
      refine runStates_unregisters ?_
      rintro _ ⟨⟩
    all_goals exact nofun
  rcases cleanup_removes_family run with ⟨fault, htrace, -⟩ | ⟨names, removals, hcleaned⟩
  · cases (List.cons.inj htrace).2
  · obtain rfl : ["pcfdev-a", "ubuntu", "pcfdev-b"] = names := by
      have hlisted := (List.cons.inj hcleaned.calls).1
      simpa using hlisted
    have hforeign : runStates.afterAll machines trace "ubuntu" = machines "ubuntu" :=
      hcleaned.foreign _ _ _ _ (by decide)
    exact ⟨run, honly, ⟨removals, hcleaned⟩, rfl, hforeign, rfl⟩

end Hypervisor

end VmLifecycle
