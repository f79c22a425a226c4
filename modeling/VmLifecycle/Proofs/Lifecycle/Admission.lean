import VmLifecycle.Proofs.Lifecycle.MemoryConsent

/-!
# What the check of a start lets through

Options are checked by a request of their own, and a start takes them as they are.
What a start can rely on is therefore what the check has looked at. Of a new VM it
looks at the options and at the memory that they come down to, but not at the number
of CPUs that the settings fall back to. Of a VM that exists it looks at the three
options that are stored with it, but not at the address, the domain and the image,
which nothing reads after the import.
-/

namespace VmLifecycle

open Program

variable {ctx : Context} {start : StartOptions} {s : Snapshot} {config : VmConfig} {phase : Phase}
  {checking trace : List Exchange} {r : Option (Except LifecycleError Unit)} {imports : Nat}

/-! ## What is admitted -/

namespace StartOptions

/-- An option that is fixed once the VM exists, by its name, is given. -/
inductive GivesFixed (o : StartOptions) : String → Prop
  | memory (h : o.memory ≠ .none) : GivesFixed o "memory"
  | cpus (h : o.cpus ≠ .none) : GivesFixed o "cpus"
  | services (h : o.services ≠ .none) : GivesFixed o "services"

/-- A refusal names an option that is given. -/
theorem givesFixed_of_refuseCreationOptions {e : LifecycleError}
    (h : start.refuseCreationOptions = .error e) :
    ∃ option, start.GivesFixed option ∧ e = .fixedOption option := by
  unfold refuseCreationOptions at h
  split at h
  · cases h
    exact ⟨_, .memory (Option.isSome_iff_ne_none.1 ‹_›), rfl⟩
  split at h
  · cases h
    exact ⟨_, .cpus (Option.isSome_iff_ne_none.1 ‹_›), rfl⟩
  split at h
  · cases h
    exact ⟨_, .services (Option.isSome_iff_ne_none.1 ‹_›), rfl⟩
  · cases h

theorem refuseCreationOptions_eq_ok :
    start.refuseCreationOptions = .ok () ↔ start.asksForCreation = false := by
  unfold refuseCreationOptions asksForCreation
  cases start.memory <;> cases start.cpus <;> cases start.services <;> simp

theorem asksForCreation_eq_false : start.asksForCreation = false ↔
    start.memory = .none ∧ start.cpus = .none ∧ start.services = .none := by
  simp [asksForCreation, and_assoc]

end StartOptions

theorem Context.admitsNew_eq_ok : ctx.admitsNew start = .ok () ↔
    start.validate = .ok () ∧ minimumMemory ≤ (ctx.newResources start).memory ∧
      ∃ subnet, ctx.askedSubnet start = .ok subnet := by
  unfold admitsNew
  rw [bind_eq_ok, ← UInt64.not_lt]
  by_cases hlittle : (ctx.newResources start).memory < minimumMemory
  · simp only [if_pos hlittle]
    constructor
    · rintro ⟨_, -, h⟩
      cases h
    · rintro ⟨-, henough, -⟩
      exact absurd hlittle henough
  · simp only [if_neg hlittle]
    constructor
    · rintro ⟨_, hvalidate, hasked⟩
      obtain ⟨subnet, hsubnet, -⟩ := bind_eq_ok.1 hasked
      exact ⟨hvalidate, hlittle, subnet, hsubnet⟩
    · rintro ⟨hvalidate, -, subnet, hsubnet⟩
      exact ⟨(), hvalidate, bind_eq_ok.2 ⟨subnet, hsubnet, rfl⟩⟩

/-- The check of a start can end well exactly if it admits the options. -/
theorem exists_runs_checkStart_ok :
    (∃ checking, Runs (s.checkStart ctx start).run checking (some (.ok ()))) ↔
      s.admits ctx start = .ok () := by
  constructor
  · rintro ⟨checking, run⟩
    cases hadmits : s.admits ctx start with
    | error e =>
        obtain ⟨-, hr⟩ := (checked_of_runs_checkStart run).refused e hadmits
        cases hr
    | ok _ => rfl
  · intro hadmits
    rw [Snapshot.checkStart_eq, hadmits]
    cases s.neededMemory? ctx start with
    | none => exact ⟨[], .done _⟩
    | some required =>
        exact ⟨_, Memory.Granted.runs (.enough (UInt64.le_refl required))⟩

theorem admits_of_runs_checkStart
    (run : Runs (s.checkStart ctx start).run checking (some (.ok ()))) :
    s.admits ctx start = .ok () :=
  exists_runs_checkStart_ok.1 ⟨checking, run⟩

/-! ## New VMs -/

theorem Settings.one_le_defaultCpus_of_validate {settings : Settings} {fileExists : String → Bool}
    (h : settings.validate fileExists = .ok ()) : 1 ≤ settings.defaultCpus := by
  have hne : settings.defaultCpus ≠ 0 := by
    intro hnone
    unfold validate at h
    rw [if_pos hnone] at h
    split at h
    · cases h
    split at h <;> cases h
  grind

theorem Context.one_le_newResources_cpus (hvalidate : start.validate = .ok ()) :
    1 ≤ (ctx.newResources start).cpus ↔ start.cpus ≠ none ∨ 1 ≤ ctx.settings.defaultCpus := by
  have hgiven := (StartOptions.validate_eq_ok.1 hvalidate).cpus
  unfold newResources
  cases hcpus : start.cpus with
  | none => simp
  | some cpus =>
      have hne : cpus ≠ 0 := by
        rintro rfl
        exact hgiven hcpus
      have hone : 1 ≤ cpus := by grind
      simpa using hone

/-- What a new VM is set up with once its options have passed the check: the memory
is enough, whether it was asked for or is that of the settings. There is a CPU if
some number of them was asked for, since a number is checked where it is given. If
none was, there is one exactly if the settings have one, as they do if nothing is
wrong with them. -/
theorem resources_of_checked_start {name vm : String} {resources : Resources}
    {reply : Except Fault Unit}
    (checked : Runs (Snapshot.checkStart ctx start (.notCreated name)).run checking
      (some (.ok ())))
    (run : Runs (Snapshot.start ctx start imports (.notCreated name)).run trace r)
    (hset : ⟨.setResources vm resources, reply⟩ ∈ trace) :
    resources = ctx.newResources start ∧ minimumMemory ≤ resources.memory ∧
      (1 ≤ resources.cpus ↔ start.cpus ≠ none ∨ 1 ≤ ctx.settings.defaultCpus) ∧
      ∀ fileExists, ctx.settings.validate fileExists = .ok () → 1 ≤ resources.cpus := by
  have hadmits : ctx.admitsNew start = .ok () := admits_of_runs_checkStart checked
  obtain ⟨hvalidate, hmemory, -⟩ := Context.admitsNew_eq_ok.1 hadmits
  have hsets : Call.SetsResources (ctx.newResources start) (.setResources vm resources) :=
    SetsResources.only_start.of_runs run hset
  obtain rfl : resources = ctx.newResources start := hsets vm resources rfl
  have hcpus : 1 ≤ (ctx.newResources start).cpus ↔
      start.cpus ≠ none ∨ 1 ≤ ctx.settings.defaultCpus :=
    Context.one_le_newResources_cpus hvalidate
  exact ⟨rfl, hmemory, hcpus, fun fileExists hsettings =>
    hcpus.2 (.inr (Settings.one_le_defaultCpus_of_validate hsettings))⟩

/-- A VM that was checked with its memory asked for and its CPUs left to the settings
is set up with two of them. -/
theorem resources_of_custom_vm :
    (∃ checking, Runs (Snapshot.checkStart CustomVm.ctx CustomVm.start
        (.notCreated "pcfdev-v1")).run checking (some (.ok ()))) ∧
      Runs (Snapshot.start CustomVm.ctx CustomVm.start 1 (.notCreated "pcfdev-v1")).run
        CustomVm.creating (some (.ok ())) ∧
      ⟨.setResources "pcfdev-v1" ⟨8192, 2⟩, .ok ()⟩ ∈ CustomVm.creating ∧
      minimumMemory ≤ 8192 ∧
      ((1 : UInt32) ≤ 2 ↔
        CustomVm.start.cpus ≠ none ∨ 1 ≤ CustomVm.ctx.settings.defaultCpus) := by
  have hset : ⟨.setResources "pcfdev-v1" ⟨8192, 2⟩, .ok ()⟩ ∈ CustomVm.creating := by
    simp [CustomVm.creating, CustomVm.importing]
  obtain ⟨-, hmemory, hcpus, -⟩ :=
    resources_of_checked_start CustomVm.runs_checking CustomVm.runs_creating hset
  exact ⟨⟨_, CustomVm.runs_checking⟩, CustomVm.runs_creating, hset, hmemory, hcpus⟩

/-- The environment sets the number of CPUs to none, which is only warned of when the
settings are loaded. The check of a start lets it pass, and the new VM is set up
without a CPU. -/
theorem no_cpus_let_through :
    let ctx : Context := ⟨.ofEnvironment ⟨[("PCFDEV_DEFAULT_CPUS", "0".toUTF8)]⟩, .builtIn⟩
    let creating : List Exchange :=
      [⟨.registered, .ok []⟩, ⟨.tell "Importing VM...", ()⟩,
       ⟨.hostOnlyAdapters, .ok [.present "vboxnet1" ⟨192, 168, 33, 1⟩]⟩,
       ⟨.hostInterfaces, .ok [.present "vboxnet1" ⟨192, 168, 33, 1⟩]⟩,
       ⟨.probe ⟨192, 168, 33, 11⟩, .ok false⟩,
       ⟨.register "pcfdev-v1" (ctx.newImage CustomVm.start), .ok ()⟩,
       ⟨.setResources "pcfdev-v1" ⟨8192, 0⟩, .error (.hypervisor "invalid CPU count")⟩,
       ⟨.unregister "pcfdev-v1", .ok ()⟩]
    Runs (Snapshot.checkStart ctx CustomVm.start (.notCreated "pcfdev-v1")).run
        [⟨.freeMemory, .ok 8192⟩] (some (.ok ())) ∧
      Runs (Snapshot.start ctx CustomVm.start 1 (.notCreated "pcfdev-v1")).run creating
        (some (.error (.failed .register (.hypervisor "invalid CPU count")))) ∧
      ∃ vm resources reply, ⟨.setResources vm resources, reply⟩ ∈ creating ∧
        ¬ 1 ≤ resources.cpus := by
  intro ctx creating
  have hsubnet : ctx.askedSubnet CustomVm.start = .ok (some ⟨192, 168, 33, 1⟩) :=
    CustomVm.askedSubnet
  have hresources : ctx.newResources CustomVm.start = ⟨8192, 0⟩ := by decide +kernel
  have hchecking : Runs (Snapshot.checkStart ctx CustomVm.start (.notCreated "pcfdev-v1")).run
      [⟨.freeMemory, .ok 8192⟩] (some (.ok ())) := by
    unfold Snapshot.checkStart Snapshot.checkNew
    rw [hsubnet, hresources]
    exact .ask _ (.done _)
  have hcreating : Runs (Snapshot.create ctx "pcfdev-v1" CustomVm.start).run creating
      (some (.error (.failed .register (.hypervisor "invalid CPU count")))) := by
    unfold Snapshot.create
    rw [hsubnet, hresources]
    exact .ask _ (.ask _ (.note (.ask _ (.ask _ (.ask _ (.note (.ask _ (.ask _ (.note (.ask _
      (.done _)))))))))))
  refine ⟨hchecking, runs_run_bind.2 (.inr (.inl ⟨_, hcreating, rfl⟩)), ?_⟩
  exact ⟨"pcfdev-v1", ⟨8192, 0⟩, .error (.hypervisor "invalid CPU count"), by simp [creating],
    by decide⟩

/-! ## VMs that exist -/

/-- The same options with another address, domain and image. -/
def StartOptions.elsewhere (o : StartOptions) (ip domain imagePath : Option String) :
    StartOptions :=
  { o with ip, domain, imagePath }

namespace Snapshot

variable {ip domain imagePath : Option String}

/-- Address, domain and image are not looked at when a VM that exists is checked. -/
theorem checkStart_elsewhere :
    checkStart ctx (start.elsewhere ip domain imagePath) (.existing phase config) =
      checkStart ctx start (.existing phase config) := by
  cases phase <;> rfl

/-- Address, domain and image are not used when a VM that exists is started. -/
theorem start_elsewhere :
    Snapshot.start ctx (start.elsewhere ip domain imagePath) imports (.existing phase config) =
      Snapshot.start ctx start imports (.existing phase config) := by
  rw [start_existing, start_existing]
  cases phase <;> rfl

theorem admits_existing (hphase : phase ≠ .unprovisioned ∧ phase ≠ .recoverable) :
    admits ctx start (.existing phase config) = start.refuseCreationOptions := by
  cases phase with
  | unprovisioned => exact absurd rfl hphase.1
  | recoverable => exact absurd rfl hphase.2
  | _ => rfl

end Snapshot

/-- What the check of a start does with options that only the creation of a VM can
apply, where the VM exists and can be started. If the memory, the CPUs or the
services are given, one that is given is refused before anything is asked. If none of
the three is, the check can pass, whatever address, domain and image are given; these
change neither the check nor the start. So no such option is dropped in silence
exactly if one of the three is given or none of the other three is. -/
theorem creation_options_of_existing (ctx : Context) (start : StartOptions) (imports : Nat)
    (config : VmConfig) (hphase : phase ≠ .unprovisioned ∧ phase ≠ .recoverable) :
    (start.asksForCreation = true → ∀ checking r,
      Runs (Snapshot.checkStart ctx start (.existing phase config)).run checking r →
        checking = [] ∧
          ∃ option, start.GivesFixed option ∧ r = some (.error (.fixedOption option))) ∧
    ((∃ checking, Runs (Snapshot.checkStart ctx start (.existing phase config)).run checking
      (some (.ok ()))) ↔ start.memory = none ∧ start.cpus = none ∧ start.services = none) ∧
    (∀ ip domain imagePath,
      Snapshot.checkStart ctx (start.elsewhere ip domain imagePath) (.existing phase config) =
        Snapshot.checkStart ctx start (.existing phase config) ∧
      Snapshot.start ctx (start.elsewhere ip domain imagePath) imports (.existing phase config) =
        Snapshot.start ctx start imports (.existing phase config)) ∧
    ((∀ checking, Runs (Snapshot.checkStart ctx start (.existing phase config)).run checking
        (some (.ok ())) →
        start.asksForCreation = false ∧ start.ip = none ∧ start.domain = none ∧
          start.imagePath = none) ↔
      start.asksForCreation = true ∨
        (start.ip = none ∧ start.domain = none ∧ start.imagePath = none)) := by
  have hpasses : (∃ checking, Runs (Snapshot.checkStart ctx start (.existing phase config)).run
      checking (some (.ok ()))) ↔ start.asksForCreation = false := by
    rw [exists_runs_checkStart_ok, Snapshot.admits_existing hphase,
      StartOptions.refuseCreationOptions_eq_ok]
  refine ⟨fun hasks checking r run => ?_, ?_, fun ip domain imagePath => ?_, ?_⟩
  · cases hrefuse : start.refuseCreationOptions with
    | error e =>
        have hadmits : Snapshot.admits ctx start (.existing phase config) = .error e :=
          (Snapshot.admits_existing hphase).trans hrefuse
        obtain ⟨rfl, rfl⟩ := (checked_of_runs_checkStart run).refused e hadmits
        obtain ⟨option, hgives, rfl⟩ := StartOptions.givesFixed_of_refuseCreationOptions hrefuse
        exact ⟨rfl, option, hgives, rfl⟩
    | ok _ =>
        rw [StartOptions.refuseCreationOptions_eq_ok.1 hrefuse] at hasks
        cases hasks
  · rw [hpasses, StartOptions.asksForCreation_eq_false]
  · exact ⟨Snapshot.checkStart_elsewhere, Snapshot.start_elsewhere⟩
  · constructor
    · intro hsound
      cases hasks : start.asksForCreation with
      | true => exact .inl rfl
      | false =>
          obtain ⟨checking, run⟩ := hpasses.2 hasks
          exact .inr (hsound checking run).2
    · rintro (hasks | hnone) checking run
      · rw [hpasses.1 ⟨checking, run⟩] at hasks
        cases hasks
      · exact ⟨hpasses.1 ⟨checking, run⟩, hnone⟩

/-- A VM that is stopped is started as it is, whatever address, domain and image it is
to have. Memory that is asked for is refused. -/
theorem creation_options_of_stopped :
    let placed : StartOptions := StartOptions.none.elsewhere (some "192.168.22.12")
      (some "local2.pcfdev.io") (some "/images/other.ova")
    (Phase.stopped ≠ .unprovisioned ∧ Phase.stopped ≠ .recoverable) ∧
      Snapshot.start CustomVm.ctx placed 1 (.existing .stopped CustomVm.config) =
        Snapshot.start CustomVm.ctx .none 1 (.existing .stopped CustomVm.config) ∧
      CustomVm.start.asksForCreation = true ∧
      ∀ checking r, Runs (Snapshot.checkStart CustomVm.ctx CustomVm.start
        (.existing .stopped CustomVm.config)).run checking r → checking = [] := by
  intro placed
  have hphase : Phase.stopped ≠ .unprovisioned ∧ Phase.stopped ≠ .recoverable := by decide
  obtain ⟨-, -, hdropped, -⟩ :=
    creation_options_of_existing CustomVm.ctx .none 1 CustomVm.config hphase
  obtain ⟨hrefused, -, -, -⟩ :=
    creation_options_of_existing CustomVm.ctx CustomVm.start 1 CustomVm.config hphase
  exact ⟨hphase, (hdropped _ _ _).2, rfl, fun checking r run => (hrefused rfl checking r run).1⟩

/-- The check lets a VM that is stopped pass with an address, a domain and an image of
another VM. -/
theorem placing_let_through :
    let placed : StartOptions := StartOptions.none.elsewhere (some "192.168.22.12")
      (some "local2.pcfdev.io") (some "/images/other.ova")
    Runs (Snapshot.checkStart CustomVm.ctx placed (.existing .stopped CustomVm.config)).run
        [⟨.freeMemory, .ok 8192⟩] (some (.ok ())) ∧
      ¬ (placed.ip = none ∧ placed.domain = none ∧ placed.imagePath = none) := by
  exact ⟨.ask _ (.done _), by decide⟩

end VmLifecycle
