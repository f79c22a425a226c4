import VmLifecycle.Hypervisor
import VmLifecycle.Proofs.Network.FirstFit

/-!
# Registering a VM, whole or not at all

A registration that fails ends in the first fault that it met, whatever its
cleanup was answered. The cleanup removes the VM if and only if this
registration had put it there, and removes no other. So a failed registration
leaves the VMs as they were, unless the cleanup failed as well.

A run has four ways to go: no adapter is found, the image is refused, the setup
meets a fault and the VM is removed, or all goes well.
-/

namespace VmLifecycle

def Call.asksHypervisor : Call → Bool
  | .hostInterfaces => false
  | .probe _ => false
  | .unusedPort => false
  | .execute _ _ => false
  | .commandOutput _ _ => false
  | .openSession _ => false
  | .freeMemory => false
  | .storeCertificate _ => false
  | .logIn _ _ _ _ => false
  | .timestamp => false
  | .createDirectory _ => false
  | .writeFile _ _ => false
  | .tell _ => false
  | .consent _ => false
  | _ => true

namespace Hypervisor

open Program

variable {table : AddressTable} {name image adapter : String} {spec : NewVm}
  {requested : Option Ipv4} {trace : List Exchange}

/-- Finds the adapter for a new VM, and creates it if need be. -/
def reserve (table : AddressTable) (name : String) (requested : Option Ipv4) :
    Attempt (Selection × String) := do
  let candidates ← (Program.call .hostOnlyAdapters).outcome
  let selection ← Selection.choose table requested candidates
  let adapter ← adapterName name selection.interface
  return (selection, adapter)

/-- Registers a VM on the adapter that was found for it. If its setup fails, the
registration is taken back. -/
def install (name image : String) (spec : NewVm) (found : Selection × String) :
    Attempt Unit := do
  (Program.call (.register name image)).outcome
  match ← Attempt.caught (setUp name found.2 spec) with
  | .error fault => abandon name fault
  | .ok port =>
    Program.log (.info "VM imported"
      [("vm", .text name), ("interface", .text found.2),
       ("ip", .text found.1.interface.ip.vmAddress.toText),
       ("ssh_port", .freshPort port), ("elapsed_ms", .elapsed)])

/-- Past its log event, a registration is these two parts in a row. -/
theorem exists_run_register_eq (table : AddressTable) (name image : String) (spec : NewVm) :
    ∃ event, (register table name image spec).run =
      .note event (reserve table name spec.subnet >>= install name image spec).run := by
  have heq : (reserve table name spec.subnet >>= install name image spec) = (do
      let candidates ← (Program.call .hostOnlyAdapters).outcome
      let selection ← Selection.choose table spec.subnet candidates
      let adapter ← adapterName name selection.interface
      install name image spec (selection, adapter)) := by
    simp only [reserve, LawfulMonad.bind_assoc, pure_bind]
  rw [heq]
  exact ⟨_, rfl⟩

theorem runs_register {r : Option (Except Fault Unit)} :
    Runs (register table name image spec).run trace r ↔
      Runs (reserve table name spec.subnet >>= install name image spec).run trace r := by
  obtain ⟨event, heq⟩ := exists_run_register_eq table name image spec
  rw [heq, runs_note]

/-! ## Finding the adapter -/

theorem only_reserve {P : Call → Prop} (hlist : P .hostOnlyAdapters) (hhost : P .hostInterfaces)
    (hprobe : ∀ ip, P (.probe ip)) (hcreate : ∀ ip, P (.createAdapter ip)) :
    Only P (reserve table name requested).run := by
  refine only_run_bind (only_call hlist) fun candidates => ?_
  refine only_run_bind (Selection.only_choose hhost hprobe) fun selection => ?_
  refine only_run_bind ?_ fun _ => only_run_pure _
  unfold adapterName
  split
  · exact only_run_pure _
  · refine only_run_bind (only_call (hcreate _)) fun _ => ?_
    exact only_run_bind (only_run_log _) fun _ => only_run_pure _

theorem failStop_reserve :
    FailStop (· = Selection.refusal requested) (reserve table name requested).run := by
  refine failStop_run_bind (failStop_call (by rintro (_ | _) <;> rfl)) fun candidates => ?_
  refine failStop_run_bind Selection.failStop_choose fun selection => ?_
  refine failStop_run_bind ?_ fun _ => trivial
  unfold adapterName
  split
  · trivial
  · exact failStop_run_bind (failStop_call (by rintro (_ | _) <;> rfl)) fun _ => trivial

theorem changes?_of_runs_reserve {r : Option (Except Fault (Selection × String))}
    (run : Runs (reserve table name requested).run trace r) {x : Exchange} (hx : x ∈ trace) :
    x.call.changes? = none := by
  have honly : Only (·.changes? = none) (reserve table name requested).run :=
    only_reserve rfl rfl (fun _ => rfl) fun _ => rfl
  exact honly.of_runs run hx

/-! ## The setup -/

theorem only_setUp : Only (Call.SetsUp name) (setUp name adapter spec).run := by
  refine only_run_bind (only_call (.resources _)) fun _ => ?_
  refine only_run_bind (only_call (.adapter _)) fun _ => ?_
  refine only_run_bind (only_call .port) fun port => ?_
  exact only_run_bind (only_call (.forwarding _ _ _)) fun _ => only_run_pure port

/-- The setup has no errors of its own. -/
theorem failStop_setUp : FailStop (fun _ => False) (setUp name adapter spec).run := by
  refine failStop_run_bind (failStop_call (by rintro (_ | _) <;> rfl)) fun _ => ?_
  refine failStop_run_bind (failStop_call (by rintro (_ | _) <;> rfl)) fun _ => ?_
  refine failStop_run_bind (failStop_call (by rintro (_ | _) <;> rfl)) fun port => ?_
  exact failStop_run_bind (failStop_call (by rintro (_ | _) <;> rfl)) fun _ => trivial

theorem eq_of_changes?_of_runs_setUp {r : Option (Except Fault UInt16)}
    (run : Runs (setUp name adapter spec).run trace r) {x : Exchange} (hx : x ∈ trace)
    {vm : String} (hvm : x.call.changes? = some vm) : vm = name := by
  rcases (only_setUp.of_runs run hx).changes? with hcall | hcall
  · rw [hcall] at hvm
    exact (Option.some.inj hvm).symm
  · rw [hcall] at hvm
    cases hvm

/-! ## The calls of a registration -/

theorem only_abandon {α : Type} {P : Call → Prop} {fault : Fault}
    (hunregister : P (.unregister name)) : Only P (abandon name fault : Attempt α).run := by
  refine only_run_bind (only_run_log _) fun _ => ?_
  refine only_run_bind (only_run_caught (only_call hunregister)) fun outcome => ?_
  cases outcome with
  | ok => exact only_run_throw fault
  | error => exact only_run_bind (only_run_log _) fun _ => only_run_throw fault

/-- A registration makes the calls that find an adapter, those that set the VM
up, and two of its own. -/
theorem only_register {P : Call → Prop}
    (hreserve : Only P (reserve table name spec.subnet).run)
    (hregister : P (.register name image))
    (hsetUp : ∀ adapter, Only P (setUp name adapter spec).run)
    (hunregister : P (.unregister name)) : Only P (register table name image spec).run := by
  obtain ⟨event, heq⟩ := exists_run_register_eq table name image spec
  rw [heq]
  refine only_run_bind hreserve fun found => ?_
  refine only_run_bind (only_call hregister) fun _ => ?_
  refine only_run_bind (only_run_caught (hsetUp found.2)) fun outcome => ?_
  cases outcome with
  | ok port => exact only_run_log _
  | error fault => exact only_abandon hunregister

/-! ## The four ways of a run -/

/-- How a registration can go, with its trace and its result. -/
inductive Course (table : AddressTable) (name image : String) (spec : NewVm) :
    List Exchange → Except Fault Unit → Prop
  | unplaced {early : List Exchange} {fault : Fault}
      (hearly : Runs (reserve table name spec.subnet).run early (some (.error fault))) :
      Course table name image spec early (.error fault)
  | refused {early : List Exchange} {found : Selection × String} {fault : Fault}
      (hearly : Runs (reserve table name spec.subnet).run early (some (.ok found))) :
      Course table name image spec (early ++ [⟨.register name image, .error fault⟩])
        (.error fault)
  | removed {early setup : List Exchange} {found : Selection × String} {fault : Fault}
      {reply : Except Fault Unit}
      (hearly : Runs (reserve table name spec.subnet).run early (some (.ok found)))
      (hsetup : Runs (setUp name found.2 spec).run setup (some (.error fault))) :
      Course table name image spec
        (early ++ ⟨.register name image, .ok ()⟩ :: setup ++ [⟨.unregister name, reply⟩])
        (.error fault)
  | completed {early setup : List Exchange} {found : Selection × String} {port : UInt16}
      (hearly : Runs (reserve table name spec.subnet).run early (some (.ok found)))
      (hsetup : Runs (setUp name found.2 spec).run setup (some (.ok port))) :
      Course table name image spec (early ++ ⟨.register name image, .ok ()⟩ :: setup) (.ok ())

/-- Taking a registration back is one call, and whatever it is answered the
fault of the setup is what remains. -/
theorem runs_abandon {fault : Fault} {r : Option (Except Fault Unit)}
    (run : Runs (abandon name fault : Attempt Unit).run trace r) :
    ∃ reply, trace = [⟨.unregister name, reply⟩] ∧ r = some (.error fault) := by
  obtain ⟨reply, rest, rfl, hend⟩ := runs_ask.1 (runs_note.1 run)
  rcases reply with other | ⟨⟩
  · obtain ⟨rfl, rfl⟩ := runs_done.1 (runs_note.1 hend)
    exact ⟨_, rfl, rfl⟩
  · obtain ⟨rfl, rfl⟩ := runs_done.1 hend
    exact ⟨_, rfl, rfl⟩

/-- Every run of a registration goes one of the four ways, and none gives up. -/
theorem course_of_runs {r : Option (Except Fault Unit)}
    (run : Runs (register table name image spec).run trace r) :
    ∃ result, r = some result ∧ Course table name image spec trace result := by
  -- `reserve` and `setUp` are fail-stop, so neither gives up without a result
  rw [runs_register, runs_run_bind] at run
  rcases run with ⟨found, early, late, rfl, hearly, hlate⟩ | ⟨fault, hearly, rfl⟩ | ⟨hearly, _⟩
  · rw [install, runs_run_bind] at hlate
    rcases hlate with ⟨_, called, rest, rfl, hcall, hrest⟩ | ⟨fault, hcall, rfl⟩ | ⟨hcall, _⟩
    · obtain ⟨reply, rfl, hreply⟩ := runs_call.1 hcall
      cases hreply
      rw [runs_run_caught_bind] at hrest
      rcases hrest with ⟨outcome, setup, last, rfl, hsetup, hlast⟩ | ⟨hsetup, _⟩
      · rcases outcome with fault | port
        · obtain ⟨reply, rfl, rfl⟩ := runs_abandon hlast
          have course : Course table name image spec
              (early ++ ⟨.register name image, .ok ()⟩ :: setup ++ [⟨.unregister name, reply⟩])
              (.error fault) :=
            .removed hearly hsetup
          exact ⟨_, rfl, by simpa using course⟩
        · obtain ⟨rfl, rfl⟩ := runs_done.1 (runs_note.1 hlast)
          exact ⟨_, rfl, by simpa using Course.completed hearly hsetup⟩
      · exact absurd hsetup failStop_setUp.not_runs_none
    · obtain ⟨reply, rfl, hreply⟩ := runs_call.1 hcall
      cases hreply
      exact ⟨_, rfl, .refused hearly⟩
    · obtain ⟨_, _, hreply⟩ := runs_call.1 hcall
      cases hreply
  · exact ⟨_, rfl, .unplaced hearly⟩
  · exact absurd hearly failStop_reserve.not_runs_none

/-! ## What follows for the VMs -/

/-- A VM is removed on the trace. -/
def Removes (trace : List Exchange) : Prop :=
  ∃ x ∈ trace, ∃ vm, x.call = .unregister vm

/-- The image was registered, and a later step of the setup of the VM failed. -/
def SetupFailed (name image : String) (trace : List Exchange) : Prop :=
  ∃ before after, trace = before ++ ⟨.register name image, .ok ()⟩ :: after ∧
    ∃ x ∈ after, x.call.SetsUp name ∧ x.fault? ≠ none

/-- What is left of a registration that failed in `fault`. -/
structure Failed (name : String) (requested : Option Ipv4) (trace : List Exchange)
    (fault : Fault) : Prop where
  /-- The fault is the first that was met; if none was, no subnet fitted. -/
  cause : firstFault? trace = some fault ∨
    firstFault? trace = none ∧ fault = Selection.refusal requested
  /-- If the cleanup did not fail as well, the VMs are as they were before. -/
  unchanged : ∀ (σ : Type) (model : HypervisorModel σ) (machines : Machines σ),
    model.Transactional → machines name = none →
    (∀ other, ⟨.unregister name, .error other⟩ ∉ trace) →
    model.afterAll machines trace = machines

/-- What a registration that went well has done: it listed the adapters, picked
one, created it unless it was there, and set the VM up. -/
structure Completed (table : AddressTable) (name image : String) (spec : NewVm)
    (trace : List Exchange) : Prop where
  faultless : firstFault? trace = none
  calls : ∃ candidates picking selection creating adapter port,
    trace = ⟨.hostOnlyAdapters, .ok candidates⟩ :: picking ++ creating ++
      [⟨.register name image, .ok ()⟩, ⟨.setResources name spec.resources, .ok ()⟩,
       ⟨.attachAdapter adapter name, .ok ()⟩, ⟨.unusedPort, .ok port⟩,
       ⟨.addForwarding name "ssh" port 22, .ok ()⟩] ∧
    Runs (Selection.choose table spec.subnet candidates).run picking (some (.ok selection)) ∧
    (∀ x ∈ picking, x.call.asksHypervisor = false) ∧
    if selection.interface.isPresent then creating = [] ∧ adapter = selection.interface.name
    else creating = [⟨.createAdapter selection.interface.ip, .ok adapter⟩]

/-! ### Removals and faults of the parts -/

theorem removes_append {first second : List Exchange} :
    Removes (first ++ second) ↔ Removes first ∨ Removes second := by
  simp only [Removes, List.mem_append, or_and_right, exists_or]

theorem not_removes_singleton {x : Exchange} (h : ∀ vm, x.call ≠ .unregister vm) :
    ¬ Removes [x] := by
  rintro ⟨y, hy, vm, hvm⟩
  rw [List.mem_singleton.1 hy] at hvm
  exact h vm hvm

theorem not_removes_of_runs_reserve {r : Option (Except Fault (Selection × String))}
    (run : Runs (reserve table name requested).run trace r) : ¬ Removes trace := by
  rintro ⟨x, hx, vm, hvm⟩
  have hchanges := changes?_of_runs_reserve run hx
  rw [hvm] at hchanges
  cases hchanges

theorem not_removes_of_runs_setUp {r : Option (Except Fault UInt16)}
    (run : Runs (setUp name adapter spec).run trace r) : ¬ Removes trace := by
  rintro ⟨x, hx, vm, hvm⟩
  have hcall := only_setUp.of_runs run hx
  rw [hvm] at hcall
  cases hcall

theorem not_mem_of_runs_reserve {r : Option (Except Fault (Selection × String))}
    (run : Runs (reserve table name requested).run trace r) {reply : Except Fault Unit} :
    ⟨.register name image, reply⟩ ∉ trace := by
  intro hx
  cases changes?_of_runs_reserve run hx

/-- Up to the setup, and with it, nothing is removed. -/
theorem not_removes_of_runs {early setup : List Exchange} {found : Selection × String}
    {r : Option (Except Fault UInt16)}
    (hearly : Runs (reserve table name requested).run early (some (.ok found)))
    (hsetup : Runs (setUp name adapter spec).run setup r) {reply : Except Fault Unit} :
    ¬ Removes (early ++ ⟨.register name image, reply⟩ :: setup) := by
  have hregister : ¬ Removes [⟨.register name image, reply⟩] := not_removes_singleton nofun
  rw [List.append_cons, removes_append, removes_append, not_or, not_or]
  exact ⟨⟨not_removes_of_runs_reserve hearly, hregister⟩, not_removes_of_runs_setUp hsetup⟩

theorem setup_fault_of_runs {fault : Fault}
    (run : Runs (setUp name adapter spec).run trace (some (.error fault))) :
    firstFault? trace = some fault ∧
      ∃ x ∈ trace, x.call.SetsUp name ∧ x.fault? ≠ none := by
  rcases failStop_setUp.firstFault?_error run with ⟨hown, _⟩ | ⟨hfirst, x, hx, hfault⟩
  · cases hown
  · exact ⟨hfirst, x, hx, only_setUp.of_runs run hx, by simp [hfault]⟩

theorem SetupFailed.mem (h : SetupFailed name image trace) :
    ⟨.register name image, .ok ()⟩ ∈ trace := by
  obtain ⟨before, after, rfl, _⟩ := h
  simp

theorem SetupFailed.firstFault?_ne (h : SetupFailed name image trace) :
    firstFault? trace ≠ none := by
  obtain ⟨before, after, rfl, x, hx, -, hfault⟩ := h
  exact fun hnone => hfault (fault?_of_firstFault?_none hnone (by simp [hx]))

/-! ### Each way in turn -/

theorem reserve_calls_of_runs {selection : Selection}
    (run : Runs (reserve table name requested).run trace (some (.ok (selection, adapter)))) :
    ∃ candidates picking creating,
      trace = ⟨.hostOnlyAdapters, .ok candidates⟩ :: picking ++ creating ∧
      Runs (Selection.choose table requested candidates).run picking (some (.ok selection)) ∧
      if selection.interface.isPresent then creating = [] ∧ adapter = selection.interface.name
      else creating = [⟨.createAdapter selection.interface.ip, .ok adapter⟩] := by
  obtain ⟨_, candidates, rest, rfl, rfl, hpick⟩ := runs_run_call_bind_ok.1 run
  obtain ⟨picked, picking, rest, rfl, hpicking, hcreate⟩ := runs_run_bind_ok.1 hpick
  obtain ⟨created, creating, rest, rfl, hcreating, hend⟩ := runs_run_bind_ok.1 hcreate
  obtain ⟨rfl, hresult⟩ := runs_done.1 hend
  cases hresult
  refine ⟨candidates, picking, creating, by simp, hpicking, ?_⟩
  unfold adapterName at hcreating
  split at hcreating
  · rename_i hpresent
    obtain ⟨rfl, hname⟩ := runs_done.1 hcreating
    cases hname
    rw [if_pos hpresent]
    exact ⟨rfl, rfl⟩
  · rename_i habsent
    rw [if_neg habsent]
    obtain ⟨_, created, rest, rfl, rfl, hlog⟩ := runs_run_call_bind_ok.1 hcreating
    obtain ⟨rfl, hname⟩ := runs_done.1 (runs_note.1 hlog)
    cases hname
    rfl

theorem setUp_calls_of_runs {port : UInt16}
    (run : Runs (setUp name adapter spec).run trace (some (.ok port))) :
    trace = [⟨.setResources name spec.resources, .ok ()⟩, ⟨.attachAdapter adapter name, .ok ()⟩,
      ⟨.unusedPort, .ok port⟩, ⟨.addForwarding name "ssh" port 22, .ok ()⟩] := by
  obtain ⟨_, ⟨⟩, rest, rfl, rfl, hattach⟩ := runs_run_call_bind_ok.1 run
  obtain ⟨_, ⟨⟩, rest, rfl, rfl, hunused⟩ := runs_run_call_bind_ok.1 hattach
  obtain ⟨_, unused, rest, rfl, rfl, hforward⟩ := runs_run_call_bind_ok.1 hunused
  obtain ⟨_, ⟨⟩, rest, rfl, rfl, hend⟩ := runs_run_call_bind_ok.1 hforward
  obtain ⟨rfl, hport⟩ := runs_done.1 hend
  cases hport
  rfl

theorem Course.whole (course : Course table name image spec trace (.ok ())) :
    Completed table name image spec trace := by
  cases course with
  | @completed early setup found port hearly hsetup =>
      obtain ⟨candidates, picking, creating, rfl, hpicking, hcreating⟩ :=
        reserve_calls_of_runs hearly
      have hearlyFaults := failStop_reserve.firstFault?_ok hearly
      have hsetupFaults := failStop_setUp.firstFault?_ok hsetup
      have hhost : Only (·.asksHypervisor = false)
          (Selection.choose table spec.subnet candidates).run :=
        Selection.only_choose rfl fun _ => rfl
      refine ⟨?_, candidates, picking, found.1, creating, found.2, port, ?_, hpicking,
        fun x hx => hhost.of_runs hpicking hx, hcreating⟩
      · rw [firstFault?_append, hearlyFaults, Option.none_or]
        exact hsetupFaults
      · rw [setUp_calls_of_runs hsetup]

theorem Course.not_removes (course : Course table name image spec trace (.ok ())) :
    ¬ Removes trace := by
  cases course with
  | completed hearly hsetup => exact not_removes_of_runs hearly hsetup

theorem Course.removes_iff {result : Except Fault Unit}
    (course : Course table name image spec trace result) :
    Removes trace ↔ SetupFailed name image trace := by
  cases course with
  | unplaced hearly =>
      refine iff_of_false (not_removes_of_runs_reserve hearly) fun h => ?_
      exact not_mem_of_runs_reserve hearly h.mem
  | refused hearly =>
      refine iff_of_false ?_ fun h => ?_
      · rw [removes_append, not_or]
        exact ⟨not_removes_of_runs_reserve hearly, not_removes_singleton nofun⟩
      · rcases List.mem_append.1 h.mem with hx | hx
        · exact not_mem_of_runs_reserve hearly hx
        · simp at hx
  | @removed early setup found fault reply hearly hsetup =>
      refine iff_of_true ⟨⟨.unregister name, reply⟩, by simp, name, rfl⟩ ?_
      obtain ⟨-, x, hx, hcall, hfault⟩ := setup_fault_of_runs hsetup
      exact ⟨early, setup ++ [⟨.unregister name, reply⟩], by simp, x, by simp [hx], hcall, hfault⟩
  | @completed early setup found port hearly hsetup =>
      have course : Course table name image spec
          (early ++ ⟨.register name image, .ok ()⟩ :: setup) (.ok ()) :=
        .completed hearly hsetup
      exact iff_of_false course.not_removes fun h => h.firstFault?_ne course.whole.faultless

theorem Course.removal_last {result : Except Fault Unit}
    (course : Course table name image spec trace result) (hremoves : Removes trace) :
    ∃ before reply, trace = before ++ [⟨.unregister name, reply⟩] ∧ ¬ Removes before := by
  cases course with
  | unplaced hearly => exact absurd hremoves (not_removes_of_runs_reserve hearly)
  | refused hearly =>
      rcases removes_append.1 hremoves with h | h
      · exact absurd h (not_removes_of_runs_reserve hearly)
      · exact absurd h (not_removes_singleton nofun)
  | @removed early setup found fault reply hearly hsetup =>
      exact ⟨_, reply, rfl, not_removes_of_runs hearly hsetup⟩
  | completed hearly hsetup => exact absurd hremoves (not_removes_of_runs hearly hsetup)

theorem Course.cause {fault : Fault}
    (course : Course table name image spec trace (.error fault)) :
    firstFault? trace = some fault ∨
      firstFault? trace = none ∧ fault = Selection.refusal spec.subnet := by
  cases course with
  | unplaced hearly =>
      rcases failStop_reserve.firstFault?_error hearly with ⟨hown, hnone⟩ | ⟨hfirst, _⟩
      · exact .inr ⟨hnone, hown⟩
      · exact .inl hfirst
  | refused hearly =>
      left
      rw [firstFault?_append, failStop_reserve.firstFault?_ok hearly, Option.none_or]
      rfl
  | @removed early setup found fault reply hearly hsetup =>
      left
      have hfirst : firstFault? (⟨.register name image, .ok ()⟩ :: setup) = some fault :=
        (setup_fault_of_runs hsetup).1
      rw [firstFault?_append, firstFault?_append, failStop_reserve.firstFault?_ok hearly, hfirst,
        Option.none_or, Option.some_or]

theorem Course.failed {fault : Fault}
    (course : Course table name image spec trace (.error fault)) :
    Failed name spec.subnet trace fault := by
  refine ⟨course.cause, fun σ model machines transactional habsent hcleanup => ?_⟩
  have hkeep {early : List Exchange} {r : Option (Except Fault (Selection × String))}
      (hearly : Runs (reserve table name spec.subnet).run early r) :
      model.afterAll machines early = machines := by
    funext vm
    refine model.afterAll_of_ne fun x hx => ?_
    rw [changes?_of_runs_reserve hearly hx]
    exact nofun
  cases course with
  | unplaced hearly => exact hkeep hearly
  | refused hearly =>
      rw [model.afterAll_append, hkeep hearly]
      exact transactional.after_of_fault machines _ fault rfl
  | @removed early setup found fault reply hearly hsetup =>
      obtain ⟨⟩ : reply = .ok () := by
        rcases reply with other | ⟨⟩
        · exact absurd (by simp) (hcleanup other)
        · rfl
      -- the VM itself is gone again, and no call was to change another one
      funext vm
      by_cases hvm : vm = name
      · rw [model.afterAll_append, hvm, habsent]
        exact transactional.after_unregister _ name
      · refine model.afterAll_of_ne fun x hx hchanges => hvm ?_
        rw [List.mem_append, List.mem_append, List.mem_cons, List.mem_singleton] at hx
        rcases hx with (hx | rfl | hx) | rfl
        · rw [changes?_of_runs_reserve hearly hx] at hchanges
          cases hchanges
        · exact (Option.some.inj hchanges).symm
        · exact eq_of_changes?_of_runs_setUp hsetup hx hchanges
        · exact (Option.some.inj hchanges).symm

/-- A registration ends either way, and removes a VM if and only if the setup of
the VM that it registered failed. The removal is that of this VM and the last
call. If the registration failed, the first fault is reported and nothing is
left behind; if not, all was done and nothing else. -/
theorem register_whole_or_not_at_all {r : Option (Except Fault Unit)}
    (run : Runs (register table name image spec).run trace r) :
    (Removes trace ↔ SetupFailed name image trace) ∧
    (Removes trace → ∃ before reply, trace = before ++ [⟨.unregister name, reply⟩] ∧
      ¬ Removes before) ∧
    ((∃ fault, r = some (.error fault) ∧ Failed name spec.subnet trace fault) ∨
      r = some (.ok ()) ∧ ¬ Removes trace ∧ Completed table name image spec trace) := by
  obtain ⟨result, rfl, course⟩ := course_of_runs run
  refine ⟨course.removes_iff, course.removal_last, ?_⟩
  rcases result with fault | ⟨⟩
  · exact .inl ⟨fault, rfl, course.failed⟩
  · exact .inr ⟨rfl, course.not_removes, course.whole⟩

/-- The new VM cannot be given its memory, and is removed again. -/
theorem failed_of_refused_resources :
    let trace : List Exchange :=
      [⟨.hostOnlyAdapters, .ok []⟩, ⟨.hostInterfaces, .ok []⟩,
       ⟨.createAdapter ⟨192, 168, 11, 1⟩, .ok "vboxnet0"⟩,
       ⟨.register "pcfdev-v1" "pcfdev.ova", .ok ()⟩,
       ⟨.setResources "pcfdev-v1" ⟨4096, 2⟩, .error (.hypervisor "out of memory")⟩,
       ⟨.unregister "pcfdev-v1", .ok ()⟩]
    Runs (register .builtIn "pcfdev-v1" "pcfdev.ova" ⟨⟨4096, 2⟩, none⟩).run trace
        (some (.error (.hypervisor "out of memory"))) ∧
      Failed "pcfdev-v1" none trace (.hypervisor "out of memory") := by
  intro trace
  have run : Runs (register .builtIn "pcfdev-v1" "pcfdev.ova" ⟨⟨4096, 2⟩, none⟩).run trace
      (some (.error (.hypervisor "out of memory"))) :=
    .note (.ask _ (.ask _ (.note (.note (.ask _ (.note (.ask _ (.ask _ (.note (.ask _
      (.done _)))))))))))
  obtain ⟨-, -, ⟨fault, hresult, hfailed⟩ | ⟨hresult, -⟩⟩ := register_whole_or_not_at_all run
  · cases hresult
    exact ⟨run, hfailed⟩
  · cases hresult

/-- The host has no port left. The VM is removed, though no call to the hypervisor,
to the network or to the prober failed. -/
theorem removed_of_refused_port :
    let refusal : Fault := .io (.other "Too many open files (os error 24)")
    let trace : List Exchange :=
      [⟨.hostOnlyAdapters, .ok []⟩, ⟨.hostInterfaces, .ok []⟩,
       ⟨.createAdapter ⟨192, 168, 11, 1⟩, .ok "vboxnet0"⟩,
       ⟨.register "pcfdev-v1" "pcfdev.ova", .ok ()⟩,
       ⟨.setResources "pcfdev-v1" ⟨4096, 2⟩, .ok ()⟩,
       ⟨.attachAdapter "vboxnet0" "pcfdev-v1", .ok ()⟩, ⟨.unusedPort, .error refusal⟩,
       ⟨.unregister "pcfdev-v1", .ok ()⟩]
    Runs (register .builtIn "pcfdev-v1" "pcfdev.ova" ⟨⟨4096, 2⟩, none⟩).run trace
        (some (.error refusal)) ∧
      Removes trace ∧ ∀ x ∈ trace, x.call ≠ .unusedPort → x.fault? = none := by
  intro refusal trace
  have run : Runs (register .builtIn "pcfdev-v1" "pcfdev.ova" ⟨⟨4096, 2⟩, none⟩).run trace
      (some (.error refusal)) :=
    .note (.ask _ (.ask _ (.note (.note (.ask _ (.note (.ask _ (.ask _ (.ask _ (.ask _ (.note
      (.ask _ (.done _)))))))))))))
  exact ⟨run, ⟨⟨.unregister "pcfdev-v1", .ok ()⟩, by simp [trace], _, rfl⟩, by decide⟩

end Hypervisor

end VmLifecycle
