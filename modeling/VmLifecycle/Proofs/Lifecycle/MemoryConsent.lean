import VmLifecycle.Proofs.Lifecycle.Answers
import VmLifecycle.Proofs.Lifecycle.Creation
import VmLifecycle.Proofs.Lifecycle.ValidOptions

/-!
# Consent to a shortage of memory

The memory that a VM needs is weighed in one place, against what the host has free
at that moment, and a shortage is put to the user once. Which VMs are weighed
depends on their state: one that is paused still has its memory. What a new VM is
weighed with is what it is set up with.
-/

namespace VmLifecycle

open Program

section

variable {ctx : Context} {start : StartOptions} {s : Snapshot} {required : UInt64}
  {trace : List Exchange} {r : Option (Except LifecycleError Unit)}

/-! ## One weighing -/

namespace Memory

theorem Weighed.weighsMemory {result : Except LifecycleError Unit}
    (h : Weighed required trace result) : ∀ x ∈ trace, x.call.weighsMemory = true := by
  cases h with
  | granted h => cases h <;> simp [Call.weighsMemory]
  | _ => simp [Call.weighsMemory]

theorem Weighed.declined_iff {result : Except LifecycleError Unit}
    (h : Weighed required trace result) :
    result = .error .declined ↔ ∃ question, ⟨.consent question, false⟩ ∈ trace := by
  cases h with
  | granted h => cases h <;> simp
  | _ => simp

end Memory

open Memory (Granted Weighed)

/-! ## The check before a start -/

/-- What the check of a start refuses a new VM for before it looks at the memory. -/
def Context.admitsNew (ctx : Context) (start : StartOptions) : Except LifecycleError Unit := do
  start.validate
  if (ctx.newResources start).memory < minimumMemory then
    throw (.invalidOption .tooLittleMemory)
  let _ ← ctx.askedSubnet start

namespace Snapshot

/-- What the check of a start refuses before it looks at the memory. -/
def admits (ctx : Context) (start : StartOptions) : Snapshot → Except LifecycleError Unit
  | .notCreated _ => ctx.admitsNew start
  | .existing .unprovisioned _ => throw .unprovisioned
  | .existing .recoverable _ => throw .recoverable
  | .existing _ _ => start.refuseCreationOptions
  | .invalid reason => throw (.unusable reason)

/-- The memory, in MB, that a start is weighed with. -/
def neededMemory? (ctx : Context) (start : StartOptions) : Snapshot → Option UInt64
  | .notCreated _ => some (start.memory.getD ctx.settings.defaultMemory)
  | .existing phase config =>
    match phase with
    | .stopped | .suspended | .saved | .aborted => some config.memory
    | _ => none
  | .invalid _ => none

end Snapshot

/-- Weighs the memory that is needed, if any. -/
def Memory.weigh : Option UInt64 → Action Unit
  | some required => ensure required
  | none => pure ()

theorem Snapshot.checkNew_eq :
    checkNew ctx start =
      (liftExcept (ctx.admitsNew start) >>= fun _ =>
        Memory.ensure (ctx.newResources start).memory) := by
  unfold checkNew Context.admitsNew
  cases start.validate with
  | error e => rfl
  | ok _ =>
      by_cases hlittle : (ctx.newResources start).memory < minimumMemory
      · simp only [if_pos hlittle]
        rfl
      · simp only [if_neg hlittle]
        cases ctx.askedSubnet start with
        | error e => rfl
        | ok subnet => rfl

theorem Snapshot.checkStart_eq :
    s.checkStart ctx start = (liftExcept (s.admits ctx start) >>= fun _ =>
      Memory.weigh (s.neededMemory? ctx start)) := by
  cases s with
  | notCreated missing => exact checkNew_eq
  | existing phase config => cases phase <;> rfl
  | invalid reason => rfl

/-- What a new VM is refused for: the options themselves, too little memory, or the
address and the domain that are asked for. -/
theorem Context.admitsNew_error {e : LifecycleError} (h : ctx.admitsNew start = .error e) :
    start.validate = .error e ∨ e = .invalidOption .tooLittleMemory ∨
      ctx.askedSubnet start = .error e := by
  unfold admitsNew at h
  cases hvalidate : start.validate with
  | error e' =>
      rw [hvalidate] at h
      cases h
      exact .inl rfl
  | ok _ =>
      rw [hvalidate] at h
      by_cases hlittle : (ctx.newResources start).memory < minimumMemory
      · simp only [if_pos hlittle] at h
        cases h
        exact .inr (.inl rfl)
      · simp only [if_neg hlittle] at h
        cases hsubnet : ctx.askedSubnet start with
        | error e' =>
            rw [hsubnet] at h
            cases h
            exact .inr (.inr rfl)
        | ok subnet =>
            rw [hsubnet] at h
            cases h

theorem Context.admitsNew_ne_declined : ctx.admitsNew start ≠ .error .declined := by
  intro h
  rcases admitsNew_error h with hvalidate | hlittle | hsubnet
  · obtain ⟨problem, words, -, he⟩ := StartOptions.validate_eq_error.1 hvalidate
    cases he
  · cases hlittle
  · cases early_of_askedSubnet hsubnet

theorem StartOptions.refuseCreationOptions_ne_declined :
    start.refuseCreationOptions ≠ .error .declined := by
  unfold refuseCreationOptions
  split
  · exact nofun
  split
  · exact nofun
  split
  · exact nofun
  · exact nofun

theorem Snapshot.admits_ne_declined : s.admits ctx start ≠ .error .declined := by
  cases s with
  | notCreated missing => exact Context.admitsNew_ne_declined
  | existing phase config =>
      cases phase with
      | unprovisioned => exact nofun
      | recoverable => exact nofun
      | _ => exact StartOptions.refuseCreationOptions_ne_declined
  | invalid reason => exact nofun

/-- What is seen of the check of a start. -/
structure Snapshot.Checked (ctx : Context) (start : StartOptions) (s : Snapshot)
    (trace : List Exchange) (r : Option (Except LifecycleError Unit)) : Prop where
  ends : r ≠ none
  /-- Neither the hypervisor nor a guest is asked anything. -/
  weighs : ∀ x ∈ trace, x.call.weighsMemory = true
  /-- Options that are not admitted are refused before the memory is read. -/
  refused : ∀ e, s.admits ctx start = .error e → trace = [] ∧ r = some (.error e)
  granted : ∀ required, s.neededMemory? ctx start = some required → r = some (.ok ()) →
    Granted required trace
  declined : ∀ required, s.neededMemory? ctx start = some required →
    (r = some (.error .declined) ↔ ∃ question, ⟨.consent question, false⟩ ∈ trace)
  unneeded : s.neededMemory? ctx start = none → trace = []

namespace Snapshot.Checked

theorem of_refused {e : LifecycleError} (h : s.admits ctx start = .error e) :
    s.Checked ctx start [] (some (.error e)) where
  ends := nofun
  weighs := by simp
  refused := by
    intro e' he'
    cases h.symm.trans he'
    exact ⟨rfl, rfl⟩
  granted := by
    intro _ _ hok
    cases hok
  declined := by
    have hdeclined : e ≠ .declined := by
      rintro rfl
      exact admits_ne_declined h
    simp [hdeclined]
  unneeded := by
    intro _
    rfl

theorem of_unneeded (h : s.admits ctx start = .ok ())
    (hneeded : s.neededMemory? ctx start = none) : s.Checked ctx start [] (some (.ok ())) where
  ends := nofun
  weighs := by simp
  refused := by simp [h]
  granted := by simp [hneeded]
  declined := by simp [hneeded]
  unneeded := by
    intro _
    rfl

theorem of_weighed {result : Except LifecycleError Unit} (h : s.admits ctx start = .ok ())
    (hneeded : s.neededMemory? ctx start = some required)
    (hweighed : Weighed required trace result) : s.Checked ctx start trace (some result) where
  ends := nofun
  weighs := hweighed.weighsMemory
  refused := by simp [h]
  granted := by
    intro needed hsome hresult
    cases hneeded.symm.trans hsome
    cases hresult
    cases hweighed
    assumption
  declined := by
    intro _ _
    rw [← hweighed.declined_iff, Option.some.injEq]
  unneeded := by simp [hneeded]

end Snapshot.Checked

theorem checked_of_runs_checkStart (run : Runs (s.checkStart ctx start).run trace r) :
    s.Checked ctx start trace r := by
  rw [Snapshot.checkStart_eq] at run
  cases hadmits : s.admits ctx start with
  | error e =>
      rw [hadmits] at run
      obtain ⟨rfl, rfl⟩ := runs_done.1 run
      exact .of_refused hadmits
  | ok _ =>
      rw [hadmits] at run
      have run : Runs (Memory.weigh (s.neededMemory? ctx start)).run trace r := run
      cases hneeded : s.neededMemory? ctx start with
      | none =>
          rw [hneeded] at run
          obtain ⟨rfl, rfl⟩ := runs_done.1 run
          exact .of_unneeded hadmits hneeded
      | some required =>
          rw [hneeded] at run
          obtain ⟨result, rfl, hweighed⟩ := Memory.weighed_of_runs_ensure run
          exact .of_weighed hadmits hneeded hweighed

/-! ## The resources of a new VM -/

/-- A call that gives no VM any other resources. -/
def Call.SetsResources (wanted : Resources) (call : Call) : Prop :=
  ∀ name resources, call = .setResources name resources → resources = wanted

namespace SetsResources

variable {name : String} {wanted : Resources}

theorem only_setUp {adapter : String} {spec : Hypervisor.NewVm} :
    Only (Call.SetsResources spec.resources) (Hypervisor.setUp name adapter spec).run := by
  refine only_run_bind (only_call ?_) fun _ => ?_
  · rintro _ _ ⟨⟩
    rfl
  refine only_run_bind (only_call nofun) fun _ => ?_
  refine only_run_bind (only_call nofun) fun port => ?_
  exact only_run_bind (only_call nofun) fun _ => only_run_pure port

theorem only_create :
    Only (Call.SetsResources (ctx.newResources start)) (Snapshot.create ctx name start).run := by
  refine Snapshot.only_create nofun (fun _ => nofun) (fun _ => nofun) fun subnet => ?_
  refine Hypervisor.only_register ?_ nofun (fun adapter => only_setUp) nofun
  exact Hypervisor.only_reserve nofun nofun (fun _ => nofun) fun _ => nofun

theorem only_query : Only (Call.SetsResources wanted) (ctx.query name).run :=
  Provision.only_query nofun nofun nofun nofun nofun fun _ => nofun

theorem only_startExisting {config : VmConfig} {phase : Phase} :
    Only (Call.SetsResources wanted) (Snapshot.startExisting ctx start config phase).run := by
  refine Provisions.only_startExisting.mono fun call hcall => ?_
  rintro vm resources rfl
  cases hcall.2

theorem only_start {imports : Nat} :
    Only (Call.SetsResources (ctx.newResources start))
      (Snapshot.start ctx start imports s).run := by
  induction imports generalizing s with
  | zero =>
      cases s with
      | notCreated missing => trivial
      | existing phase config => exact only_startExisting
      | invalid reason => trivial
  | succ imports ih =>
      cases s with
      | notCreated missing =>
          exact only_run_bind only_create fun _ => only_run_bind only_query fun found => ih
      | existing phase config => exact only_startExisting
      | invalid reason => trivial

end SetsResources

/-- A call that gives no VM any other memory. -/
def Call.SetsMemory (memory : UInt64) (call : Call) : Prop :=
  ∀ name resources, call = .setResources name resources → resources.memory = memory

theorem SetsMemory.only_start {imports : Nat} :
    Only (Call.SetsMemory (ctx.newResources start).memory)
      (Snapshot.start ctx start imports s).run :=
  SetsResources.only_start.mono fun _ hcall name resources heq =>
    congrArg Resources.memory (hcall name resources heq)

/-! ## VMs that have their memory -/

/-- A call that weighs no memory. -/
def Call.SparesMemory (call : Call) : Prop :=
  call.weighsMemory = false

namespace SparesMemory

variable {config : VmConfig} {imports : Nat}

theorem only_of_views (ctx : Context) (s : Snapshot) {α : Type} {p : Program α}
    (h : Only (Call.Views ctx s) p) : Only Call.SparesMemory p :=
  h.mono fun _ hcall => hcall.2

theorem only_tell (text : String) : Only Call.SparesMemory (tell text).run :=
  only_run_tell text rfl

theorem only_checkExisting :
    Only Call.SparesMemory (Snapshot.checkExisting config start false).run :=
  only_run_bind (only_run_except _) fun _ => only_run_pure ()

theorem only_restore : Only Call.SparesMemory (Snapshot.restore config).run :=
  only_run_announced (fun _ => rfl) (only_call rfl)

/-- No request weighs the memory of a VM that runs. -/
theorem only_running (request : Request) :
    Only Call.SparesMemory (request.apply ctx imports (.existing .running config)).run := by
  cases request with
  | start options =>
      rw [Request.apply, Snapshot.start_existing]
      exact only_tell _
  | stop => exact only_run_announced (fun _ => rfl) (only_call rfl)
  | suspend => exact only_run_announced (fun _ => rfl) (only_call rfl)
  | resume => exact only_tell _
  | destroy =>
      refine only_run_bind (only_tell _) fun _ => ?_
      refine only_run_bind (only_run_adapt (only_call rfl)) fun _ => ?_
      exact only_run_bind (only_run_adapt (only_call rfl)) fun _ => only_tell _
  | provision => exact only_run_throw _
  | trust => exact only_of_views ctx (.existing .running config) Views.only_trust
  | target =>
      exact only_of_views ctx (.existing .running config)
        (Views.only_target (.existing .running config))
  | ssh => exact only_of_views ctx (.existing .running config) Views.only_ssh
  | debugLogs dir => exact only_of_views ctx (.existing .running config) (Views.only_debugLogs dir)
  | checkStart options => exact only_checkExisting

/-- No request weighs the memory of a VM that is paused. -/
theorem only_paused (request : Request) :
    Only Call.SparesMemory (request.apply ctx imports (.existing .paused config)).run := by
  cases request with
  | start options =>
      rw [Request.apply, Snapshot.start_existing]
      exact only_restore
  | stop => exact only_run_throw _
  | suspend => exact only_tell _
  | resume => exact only_restore
  | destroy => exact only_run_announced (fun _ => rfl) (only_call rfl)
  | provision => exact only_run_throw _
  | trust => exact only_tell _
  | target => exact only_tell _
  | ssh => exact only_tell _
  | debugLogs dir => exact only_tell _
  | checkStart options => exact only_checkExisting

end SparesMemory

/-! ## Every start -/

/-- A start of a VM that was aborted powers it on only once its memory was granted. -/
theorem granted_of_runs_start {config : VmConfig} {imports : Nat} {before after : List Exchange}
    {vm : String} {reply : Except Fault Unit}
    (run : Runs (Snapshot.start ctx start imports (.existing .aborted config)).run
      (before ++ ⟨.powerOn vm, reply⟩ :: after) r) :
    ∃ weighing between, before = weighing ++ between ∧ Granted config.memory weighing := by
  have hnot {trace : List Exchange} {q : Option (Except LifecycleError Unit)}
      (hrun : Runs (Memory.ensure config.memory).run trace q) : ⟨.powerOn vm, reply⟩ ∉ trace := by
    obtain ⟨result, -, hweighed⟩ := Memory.weighed_of_runs_ensure hrun
    intro hmem
    cases hweighed.weighsMemory _ hmem
  rw [Snapshot.start_existing] at run
  obtain ⟨⟨⟩, weighing, between, rfl, hweighing, -⟩ := split_of_runs_run_bind hnot run
  obtain ⟨result, hresult, hweighed⟩ := Memory.weighed_of_runs_ensure hweighing
  cases hresult
  cases hweighed with
  | granted hgranted => exact ⟨weighing, between, rfl, hgranted⟩

/-- A start is checked by weighing the memory that its VM needs, once, with the user's
consent to a shortage, and by nothing else. A new VM is set up with the memory that
it was weighed with. A VM that was aborted is weighed again when it is started, and
one that runs or is paused never is. -/
theorem start_weighs_memory (ctx : Context) (start : StartOptions) (imports : Nat) :
    (∀ s trace r, Runs (Snapshot.checkStart ctx start s).run trace r →
      s.Checked ctx start trace r) ∧
    (∀ name trace r, Runs (Snapshot.start ctx start imports (.notCreated name)).run trace r →
      ∀ vm resources reply, ⟨.setResources vm resources, reply⟩ ∈ trace →
        (Snapshot.notCreated name).neededMemory? ctx start = some resources.memory) ∧
    (∀ config before vm reply after r,
      Runs (Snapshot.start ctx start imports (.existing .aborted config)).run
        (before ++ ⟨.powerOn vm, reply⟩ :: after) r →
      ∃ weighing between, before = weighing ++ between ∧ Granted config.memory weighing) ∧
    ∀ phase config, phase = .running ∨ phase = .paused → ∀ (request : Request) trace r,
      Runs (request.apply ctx imports (.existing phase config)).run trace r →
        ∀ x ∈ trace, x.call.weighsMemory = false := by
  refine ⟨fun s trace r run => checked_of_runs_checkStart run, ?_, ?_, ?_⟩
  · intro name trace r run vm resources reply hmem
    have hsets : Call.SetsMemory (ctx.newResources start).memory (.setResources vm resources) :=
      SetsMemory.only_start.of_runs run hmem
    rw [hsets vm resources rfl]
    rfl
  · exact fun config before vm reply after r run => granted_of_runs_start run
  · rintro phase config (rfl | rfl) request trace r run x hx
    · exact (SparesMemory.only_running request).of_runs run hx
    · exact (SparesMemory.only_paused request).of_runs run hx

end

theorem CustomVm.runs_checking :
    Runs (Snapshot.checkStart ctx start (.notCreated "pcfdev-v1")).run
      [⟨.freeMemory, .ok 4096⟩, ⟨.consent (Memory.question 8192), true⟩] (some (.ok ())) := by
  unfold Snapshot.checkStart Snapshot.checkNew
  rw [askedSubnet]
  exact .ask _ (.note (.ask _ (.done _)))

open CustomVm in
/-- With half of the memory free, a VM is created and an aborted one started once the
user has agreed. -/
theorem start_weighs_shortage :
    let short : List Exchange :=
      [⟨.freeMemory, .ok 4096⟩, ⟨.consent (Memory.question 8192), true⟩]
    let stopping : List Exchange :=
      [⟨.tell "Stopping VM...", ()⟩, ⟨.powerOff "pcfdev-v1", .ok ()⟩,
       ⟨.tell "PCF Dev is now stopped.", ()⟩]
    Runs (Snapshot.checkStart ctx start (.notCreated "pcfdev-v1")).run short (some (.ok ())) ∧
      Memory.Granted 8192 short ∧
      Runs (Snapshot.start ctx start 1 (.notCreated "pcfdev-v1")).run creating (some (.ok ())) ∧
      ⟨.setResources "pcfdev-v1" ⟨8192, 2⟩, .ok ()⟩ ∈ creating ∧
      (Snapshot.notCreated "pcfdev-v1").neededMemory? ctx start = some 8192 ∧
      Runs (Snapshot.start ctx start 1 (.existing .aborted config)).run
        (short ++ [⟨.tell "Starting VM...", ()⟩] ++
          ⟨.powerOn "pcfdev-v1", .error (.hypervisor "locked")⟩ :: [])
        (some (.error (.failed .start (.hypervisor "locked")))) ∧
      (∃ weighing between, short ++ [⟨.tell "Starting VM...", ()⟩] = weighing ++ between ∧
        Memory.Granted 8192 weighing) ∧
      Runs (Request.stop.apply ctx 1 (.existing .running config)).run stopping (some (.ok ())) ∧
      ∀ x ∈ stopping, x.call.weighsMemory = false := by
  intro short stopping
  have hstarting : Runs (Snapshot.start ctx start 1 (.existing .aborted config)).run
      (short ++ [⟨.tell "Starting VM...", ()⟩] ++
        ⟨.powerOn "pcfdev-v1", .error (.hypervisor "locked")⟩ :: [])
      (some (.error (.failed .start (.hypervisor "locked")))) :=
    .ask _ (.note (.ask _ (.ask _ (.note (.ask _ (.done _))))))
  have hstopping : Runs (Request.stop.apply ctx 1 (.existing .running config)).run stopping
      (some (.ok ())) :=
    .ask _ (.note (.ask _ (.ask _ (.done _))))
  have hset : ⟨.setResources "pcfdev-v1" ⟨8192, 2⟩, .ok ()⟩ ∈ creating := by
    simp [creating, importing]
  obtain ⟨hchecked, hcreated, haborted, hspared⟩ := start_weighs_memory ctx start 1
  exact ⟨runs_checking, (hchecked _ _ _ runs_checking).granted 8192 rfl rfl, runs_creating, hset,
    hcreated _ _ _ runs_creating _ _ _ hset, hstarting, haborted _ _ _ _ _ _ hstarting, hstopping,
    hspared _ _ (.inl rfl) _ _ _ hstopping⟩

end VmLifecycle
