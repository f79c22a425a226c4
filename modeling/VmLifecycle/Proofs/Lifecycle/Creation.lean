import VmLifecycle.Proofs.Address.Lookup
import VmLifecycle.Proofs.Hypervisor.Inventory
import VmLifecycle.Proofs.Network.Placement
import VmLifecycle.Proofs.Provision.Services

/-!
# What a start creates

A start of a VM that does not exist imports it, asks for it, and starts it from
the phase in which it is found. What was asked for goes one way through the
hypervisor, which is told of resources, an adapter and a port, and comes back by
another, as the configuration that the next query reads.
-/

namespace VmLifecycle

open Program

section

variable {ctx : Context} {name : String} {start : StartOptions} {selection : Selection}
  {port : UInt16} {config : VmConfig} {phase : Phase} {trace : List Exchange} {inv : Inventory}

/-! ## The parts of a creation -/

/-- An import that went well: a subnet was asked for, if any, an adapter was picked
and created if need be, and the VM was registered and set up with it. -/
inductive Imported (ctx : Context) (name : String) (start : StartOptions)
    (selection : Selection) (port : UInt16) : List Exchange → Prop
  | intro {looking picking creating : List Exchange} {candidates : List Interface}
      {adapter : String} {subnet : Option Ipv4}
      (hlooking : ∀ x ∈ looking, x.call.isIdle = true)
      (hsubnet : ctx.askedSubnet start = .ok subnet)
      (hpicking : Runs (Selection.choose ctx.table subnet candidates).run picking
        (some (.ok selection)))
      (hcreating : if selection.interface.isPresent
        then creating = [] ∧ adapter = selection.interface.name
        else creating = [⟨.createAdapter selection.interface.ip, .ok adapter⟩]) :
      Imported ctx name start selection port
        (looking ++ (⟨.hostOnlyAdapters, .ok candidates⟩ :: picking ++ creating ++
          [⟨.register name (ctx.newImage start), .ok ()⟩,
           ⟨.setResources name (ctx.newResources start), .ok ()⟩,
           ⟨.attachAdapter adapter name, .ok ()⟩, ⟨.unusedPort, .ok port⟩,
           ⟨.addForwarding name "ssh" port 22, .ok ()⟩]) ++
          [⟨.tell "PCF Dev is now imported to Virtualbox.", ()⟩])

/-- The creation of a VM: the import, the query for it, and the start of the VM in
the phase in which it was found. -/
inductive Creation (ctx : Context) (name : String) (start : StartOptions)
    (selection : Selection) (phase : Phase) (config : VmConfig) : List Exchange → Prop
  | intro {importing asking starting : List Exchange}
      (himported : Imported ctx name start selection config.sshPort importing)
      (hasked : Runs (ctx.query name).run asking (some (.ok (.existing phase config))))
      (hstarted : Runs (Snapshot.startExisting ctx start config phase).run starting
        (some (.ok ()))) :
      Creation ctx name start selection phase config (importing ++ asking ++ starting)

/-- The configuration of a VM that was created with an adapter at `host`. -/
def Context.newConfig (ctx : Context) (name : String) (start : StartOptions) (host : Ipv4)
    (port : UInt16) : VmConfig :=
  ⟨name, host.vmAddress, ctx.table.domainOfAddress host.vmAddress, port,
    start.memory.getD ctx.settings.defaultMemory, start.cpus.getD ctx.settings.defaultCpus⟩

theorem imported_of_runs_create
    (run : Runs (Snapshot.create ctx name start).run trace (some (.ok ()))) :
    ∃ selection port, Imported ctx name start selection port trace := by
  obtain ⟨_, looking, rest, rfl, hlooking, hrest⟩ := runs_run_bind_ok.1 run
  have hidle := isIdle_of_runs_refuseConflict ctx hlooking
  cases hsubnet : ctx.askedSubnet start with
  | error e =>
      rw [hsubnet] at hrest
      cases (runs_done.1 hrest).2
  | ok subnet =>
      rw [hsubnet] at hrest
      obtain ⟨⟨⟩, rest, rfl, hregister⟩ := runs_ask.1 hrest
      have htold : ∀ x ∈ looking ++ [⟨.tell "Importing VM...", ()⟩], x.call.isIdle = true :=
        List.forall_mem_append.2 ⟨hidle, List.forall_mem_singleton.2 rfl⟩
      rw [List.append_cons]
      rcases runs_run_adapt_bind.1 hregister with ⟨⟨⟩, registering, rest, rfl, hrun, hrest⟩ |
        ⟨fault, -, hresult⟩ | ⟨-, hresult⟩
      · obtain ⟨result, hresult, hcourse⟩ := Hypervisor.course_of_runs hrun
        cases hresult
        obtain ⟨⟨⟩, rest, rfl, hdone⟩ := runs_ask.1 hrest
        obtain ⟨rfl, -⟩ := runs_done.1 hdone
        obtain ⟨candidates, picking, selection, creating, adapter, port, rfl, hpicking, -,
          hcreating⟩ := hcourse.whole.calls
        rw [← List.append_assoc]
        exact ⟨selection, port, .intro htold hsubnet hpicking hcreating⟩
      · cases hresult
      · cases hresult

/-- The import leaves the VM with what was asked for, and with an adapter at the
address that was selected. -/
theorem Imported.configuration? (himported : Imported ctx name start selection port trace)
    (consistent : inv.Consistent trace) :
    (inv.afterAll trace).configuration? ctx.table name =
      some (ctx.newConfig name start selection.interface.ip port) := by
  cases himported with
  | @intro looking picking creating candidates adapter subnet hlooking hsubnet hpicking
      hcreating =>
      obtain ⟨consistent, -⟩ := Inventory.consistent_append.1 consistent
      obtain ⟨-, consistent⟩ := Inventory.consistent_append.1 consistent
      obtain ⟨consistent, -⟩ := Inventory.consistent_append.1 consistent
      obtain ⟨⟨hlisted, hpicked⟩, hcreated⟩ := Inventory.consistent_append.1 consistent
      -- the adapter is known at the selected address before the VM is registered
      have hadapter : ((inv.afterAll looking).afterAll
          (⟨.hostOnlyAdapters, .ok candidates⟩ :: picking ++ creating)).adapters adapter =
            some selection.interface.ip := by
        by_cases hpresent : selection.interface.isPresent = true
        · rw [if_pos hpresent] at hcreating
          obtain ⟨rfl, rfl⟩ := hcreating
          rw [List.append_nil]
          have hknown := hlisted _ (Selection.mem_candidates_of_runs_choose hpicking hpresent)
            hpresent
          have hstays := Inventory.adapters_afterAll hpicked hknown
          exact hstays
        · rw [if_neg hpresent] at hcreating
          subst hcreating
          rw [Inventory.afterAll, List.foldl_append]
          exact if_pos rfl
      rw [Inventory.afterAll_append, Inventory.afterAll_append, Inventory.afterAll_append]
      exact Inventory.configuration?_setUp hadapter

/-! ## Calls that provision -/

/-- A call stores no options but these, and runs the script with no others. -/
structure Call.Provisions (options : ProvisionOptions) (call : Call) : Prop where
  stores : ∀ text, call.stores? = some text →
    ProvisionOptions.ofStored text = .ok (some options)
  script : ∀ command, call.script? = some command → command = Guest.provisionCommand options

namespace Provisions

variable {options : ProvisionOptions} {call : Call}

theorem of_spares (h : call.Spares) : call.Provisions options where
  stores := by simp [h.1]
  script := by simp [h.2]

/-- A call of the start of a VM, which leaves what is stored of the VMs alone. -/
def Still (options : ProvisionOptions) (call : Call) : Prop :=
  call.Provisions options ∧ call.records? = none

theorem still_of_channel? (hchannel : call.channel? = none) (hrecords : call.records? = none) :
    Still options call :=
  ⟨of_spares (Call.spares_of_channel? hchannel), hrecords⟩

theorem still_of_idle (h : call.isIdle = true) : Still options call := by
  obtain ⟨hchanges, hchannel, -⟩ := Call.isIdle_iff.1 h
  refine still_of_channel? hchannel ?_
  cases call <;> first | rfl | cases hchanges

theorem still_storeOptions (channel : Channel) :
    Still options (.execute (Guest.storeOptionsCommand options) channel) := by
  refine ⟨⟨?_, ?_⟩, rfl⟩
  · simp only [Call.stores?_storeOptions, Option.some.injEq]
    rintro text rfl
    exact Provision.ofStored_stored
  · simp

theorem still_installPassword (channel : Channel) :
    Still options (.execute Guest.installPasswordCommand channel) :=
  ⟨of_spares Call.spares_installPassword, rfl⟩

theorem still_script (channel : Channel) :
    Still options (.execute (Guest.provisionCommand options) channel) := by
  refine ⟨⟨?_, ?_⟩, rfl⟩
  · simp
  · simp [eq_comm]

theorem only_tell (text : String) : Only (Still options) (tell text).run :=
  only_run_tell _ (still_of_channel? rfl rfl)

theorem only_bringUp : Only (Still (.ofStart config start ctx.settings.defaultServices))
    (Provision.bringUp ctx config start).run := by
  refine only_run_bind (only_tell _) fun _ => ?_
  refine only_run_bind (only_run_adapt (only_call (still_of_channel? rfl rfl))) fun _ => ?_
  refine only_run_bind (only_run_adapt ?_) fun _ => ?_
  · refine only_run_bind (only_call (still_storeOptions _)) fun _ => ?_
    exact only_run_bind (only_call (still_installPassword _)) fun _ => only_run_log _
  split
  · exact only_tell _
  · refine only_run_bind (only_tell _) fun _ => ?_
    refine only_run_bind (only_run_adapt ?_) fun _ => only_tell _
    refine only_run_bind (only_run_log _) fun _ => ?_
    exact only_run_bind (only_call (still_script _)) fun _ => only_run_log _

theorem only_startExisting :
    Only (Still (.ofStart config start ctx.settings.defaultServices))
      (Snapshot.startExisting ctx start config phase).run := by
  have hrestore : Only (Still (.ofStart config start ctx.settings.defaultServices))
      (Snapshot.restore config).run :=
    only_run_announced (fun _ => still_of_channel? rfl rfl)
      (only_call (still_of_channel? rfl rfl))
  cases phase with
  | stopped => exact only_bringUp
  | running => exact only_tell _
  | suspended => exact hrestore
  | paused => exact hrestore
  | saved => exact hrestore
  | aborted =>
      have hlooks : Only (Call.Looks ctx (.invalid "")) (Memory.ensure config.memory).run :=
        Looks.only_ensure config.memory
      refine only_run_bind (hlooks.mono fun call hcall => ?_) fun _ => only_bringUp
      cases hcall with
      | idle h => exact still_of_idle h
      | print hs => cases hs
      | session hs => cases hs
  | unprovisioned => exact only_run_throw _
  | recoverable => exact only_run_throw _

end Provisions

/-! ## What is found afterwards -/

/-- A start that ends well has created the VM, and its configuration is stored. -/
theorem creation_of_runs {imports : Nat} (consistent : inv.Consistent trace)
    (run : Runs (Snapshot.start ctx start imports (.notCreated name)).run trace
      (some (.ok ()))) :
    ∃ selection phase config, Creation ctx name start selection phase config trace ∧
      config = ctx.newConfig name start selection.interface.ip config.sshPort ∧
      (inv.afterAll trace).configuration? ctx.table name = some config := by
  cases imports with
  | zero => cases (runs_unsettled.1 run).2
  | succ imports =>
      obtain ⟨⟨⟩, importing, rest, rfl, hcreate, hrest⟩ := runs_run_bind_ok.1 run
      obtain ⟨s, asking, starting, rfl, hasked, hstarted⟩ := runs_run_bind_ok.1 hrest
      rw [← List.append_assoc] at consistent ⊢
      obtain ⟨consistent, hstarting⟩ := Inventory.consistent_append.1 consistent
      obtain ⟨himporting, hasking⟩ := Inventory.consistent_append.1 consistent
      obtain ⟨selection, port, himported⟩ := imported_of_runs_create hcreate
      have hstored := himported.configuration? himporting
      obtain ⟨hdescribes, hsame⟩ := Inventory.describes_of_runs_query hasking hasked
      cases s with
      | notCreated missing =>
          obtain ⟨vm, _, _, _, _, hvm, -⟩ := Inventory.configuration?_eq_some.1 hstored
          rw [show _ = none from hdescribes] at hvm
          cases hvm
      | invalid reason =>
          cases imports <;> cases (runs_done.1 hstarted).2
      | existing phase config =>
          cases hstored.symm.trans hdescribes
          have hstarted : Runs (Snapshot.startExisting ctx start
              (ctx.newConfig name start selection.interface.ip port) phase).run starting
              (some (.ok ())) := by
            cases imports <;> exact hstarted
          refine ⟨selection, phase, _, .intro himported hasked hstarted, rfl, ?_⟩
          rw [Inventory.afterAll_append]
          refine Inventory.configuration?_afterAll hstarting (fun x hx => ?_) ?_
          · rw [(Provisions.only_startExisting.of_runs hstarted hx).2]
            exact nofun
          · rw [Inventory.afterAll_append, hsame, hstored]

/-- The next query that reads the configuration of the VM reads that of its
creation, whatever else was asked for in between. -/
theorem creation_of_runs_query {imports : Nat} {creating between asking : List Exchange}
    {s : Snapshot} (consistent : inv.Consistent (creating ++ between ++ asking))
    (created : Runs (Snapshot.start ctx start imports (.notCreated name)).run creating
      (some (.ok ())))
    (spared : ∀ x ∈ between, x.call.records? ≠ some name)
    (asked : Runs (ctx.query name).run asking (some (.ok s))) (hs : s.config? = some config) :
    ∃ selection phase, Creation ctx name start selection phase config creating ∧
      config = ctx.newConfig name start selection.interface.ip config.sshPort := by
  obtain ⟨consistent, hasking⟩ := Inventory.consistent_append.1 consistent
  obtain ⟨hcreating, hbetween⟩ := Inventory.consistent_append.1 consistent
  obtain ⟨selection, phase, config', hcreation, hconfig, hstored⟩ :=
    creation_of_runs hcreating created
  obtain ⟨hdescribes, -⟩ := Inventory.describes_of_runs_query hasking asked
  rw [Inventory.afterAll_append] at hdescribes
  have hkept := Inventory.configuration?_afterAll hbetween spared hstored
  cases s with
  | existing found config'' =>
      cases hs
      cases hkept.symm.trans hdescribes
      exact ⟨selection, phase, hcreation, hconfig⟩
  | _ => cases hs

/-! ## What was asked for -/

namespace Imported

theorem channel? (himported : Imported ctx name start selection port trace) {x : Exchange}
    (hx : x ∈ trace) : x.call.channel? = none := by
  cases himported with
  | @intro looking picking creating candidates adapter subnet hlooking hsubnet hpicking
      hcreating =>
      have hchoose : Only (·.channel? = none) (Selection.choose ctx.table subnet candidates).run :=
        Selection.only_choose rfl fun _ => rfl
      have hcreated : ∀ x ∈ creating, x.call.channel? = none := by
        split at hcreating
        · simp [hcreating.1]
        · simp [hcreating, Call.channel?]
      simp only [List.mem_append, List.mem_cons, List.not_mem_nil, or_false] at hx
      rcases hx with (hx | ((rfl | hx) | hx) | rfl | rfl | rfl | rfl | rfl) | rfl
      · exact (Call.isIdle_iff.1 (hlooking x hx)).2.1
      · rfl
      · exact hchoose.of_runs hpicking hx
      · exact hcreated x hx
      all_goals rfl

theorem poweredOff (himported : Imported ctx name start selection port trace)
    (machines : Machines RunState) :
    runStates.afterAll machines trace name = some .poweredOff := by
  cases himported with
  | intro hlooking hsubnet hpicking hcreating =>
      rw [HypervisorModel.afterAll_append, HypervisorModel.afterAll_append,
        HypervisorModel.afterAll_append]
      exact Machines.set_self _

/-- The adapter is in the subnets that were asked for, by address and by domain. -/
theorem asked (himported : Imported ctx name start selection port trace) :
    (∀ text, start.ip = some text →
      ∃ a, Ipv4.ofText? (Text.trim text) = some a ∧ a.subnet = selection.interface.ip) ∧
    (∀ domain, start.domain = some domain →
      ctx.table.subnetOfDomain domain = .ok selection.interface.ip) ∧
    (start.ip = none → start.domain = none → selection.interface.ip ∈ ctx.table.subnets) := by
  cases himported with
  | @intro looking picking creating candidates adapter subnet hlooking hsubnet hpicking
      hcreating =>
      obtain ⟨hip, hdomain, hnone⟩ := Context.askedSubnet_ok hsubnet
      have hfits := Selection.fits_of_runs_choose hpicking
      refine ⟨fun text htext => ?_, fun domain hd => ?_, fun hno hno' => ?_⟩
      · obtain ⟨a, ha, rfl⟩ := hip text htext
        exact ⟨a, ha, hfits.symm⟩
      · obtain ⟨found, hfound, rfl⟩ := hdomain domain hd
        rw [show selection.interface.ip = found from hfits]
        exact hfound
      · rw [hnone hno hno'] at hfits
        exact hfits

end Imported

namespace Creation

variable {creating : List Exchange}

theorem provisions (hcreation : Creation ctx name start selection phase config creating) :
    ∀ x ∈ creating, x.call.Provisions (.ofStart config start ctx.settings.defaultServices) := by
  cases hcreation with
  | intro himported hasked hstarted =>
      intro x hx
      rcases List.mem_append.1 hx with hx | hx
      · rcases List.mem_append.1 hx with hx | hx
        · exact Provisions.of_spares (Call.spares_of_channel? (himported.channel? hx))
        · exact Provisions.of_spares (spares_query.of_runs hasked hx)
      · exact (Provisions.only_startExisting.of_runs hstarted hx).1

/-- A VM that was found powered off is provisioned, unless that was not wanted. -/
theorem provisioned (hcreation : Creation ctx name start selection phase config creating)
    (hphase : phase = .stopped ∨ phase = .aborted) :
    let options := ProvisionOptions.ofStart config start ctx.settings.defaultServices
    Provision.storing (ctx.channel config) options ∈ creating ∧
      (start.noProvision = false →
        ⟨.execute (Guest.provisionCommand options) (ctx.provisionChannel config), .ok ()⟩ ∈
          creating) := by
  intro options
  cases hcreation with
  | @intro importing asking starting himported hasked hstarted =>
      have hbrought : ∃ before, ∃ rest,
          Provision.BroughtUp ctx config options start.noProvision rest (.ok ()) ∧
            starting = before ++ rest := by
        rcases hphase with rfl | rfl
        · obtain ⟨result, hresult, hbrought⟩ := Provision.broughtUp_of_runs hstarted
          cases hresult
          exact ⟨[], starting, hbrought, rfl⟩
        · obtain ⟨⟨⟩, before, rest, rfl, -, hrest⟩ := runs_run_bind_ok.1 hstarted
          obtain ⟨result, hresult, hbrought⟩ := Provision.broughtUp_of_runs hrest
          cases hresult
          exact ⟨before, rest, hbrought, rfl⟩
      obtain ⟨before, rest, hbrought, rfl⟩ := hbrought
      cases hbrought with
      | stored hrest =>
          refine ⟨by simp, fun hskip => ?_⟩
          cases hrest with
          | skipped hskip' => simp [hskip] at hskip'
          | provisioned _ hrest =>
              cases hrest with
              | succeeded => simp

/-- A VM that was just imported is found powered off. -/
theorem stopped {machines : Machines RunState} (truthful : Truthful machines creating)
    (hcreation : Creation ctx name start selection phase config creating) : phase = .stopped := by
  cases hcreation with
  | intro himported hasked hstarted =>
      obtain ⟨truthful, -⟩ := truthful_append.1 truthful
      obtain ⟨-, truthful⟩ := truthful_append.1 truthful
      obtain ⟨outcome, houtcome, hshows, -⟩ := revealed_of_runs_query truthful hasked
      cases houtcome
      rcases hshows with ⟨fault, hfault⟩ | ⟨s, hs, hshows⟩
      · cases hfault
      · cases hs
        have hstate := hshows.2
        rw [himported.poweredOff] at hstate
        cases phase <;> first | rfl | cases hstate

end Creation

/-- What a start creates is what was asked for. Suppose that it ended well, and
that the VM's configuration is read later, after nothing that is to change what
is stored of the VM. Then the VM has the memory and the processors that were
asked for, or the default ones, the port that the import forwarded, the usual
address in the subnet that was selected, which is the one asked for if any was,
and the domain of this address, which is the one asked for if any was. What is
stored in its guest, and what the script is run with, is of the same domain and
address. Both are done if the VM was found powered off, as it is where an import
leaves it so, but for a script that was not wanted. -/
theorem created_as_asked {imports : Nat} {creating between asking : List Exchange} {s : Snapshot}
    (uniform : ctx.table.Uniform)
    (consistent : inv.Consistent (creating ++ between ++ asking))
    (created : Runs (Snapshot.start ctx start imports (.notCreated name)).run creating
      (some (.ok ())))
    (spared : ∀ x ∈ between, x.call.records? ≠ some name)
    (asked : Runs (ctx.query name).run asking (some (.ok s))) (hs : s.config? = some config) :
    ∃ selection phase, Creation ctx name start selection phase config creating ∧
      config.name = name ∧
      config.memory = start.memory.getD ctx.settings.defaultMemory ∧
      config.cpus = start.cpus.getD ctx.settings.defaultCpus ∧
      config.ip = selection.interface.ip.vmAddress ∧
      config.domain = ctx.table.domainOfAddress config.ip ∧
      (∀ text, start.ip = some text →
        ∃ a, Ipv4.ofText? (Text.trim text) = some a ∧ a.subnet = selection.interface.ip) ∧
      (∀ domain, start.domain = some domain →
        ctx.table.subnetOfDomain domain = .ok selection.interface.ip ∧ config.domain = domain) ∧
      (start.ip = none → start.domain = none → selection.interface.ip ∈ ctx.table.subnets) ∧
      ∃ options : ProvisionOptions,
        options.domain = config.domain ∧ options.ip = config.ip.toText ∧
        (∀ x ∈ creating, x.call.Provisions options) ∧
        (phase = .stopped ∨ phase = .aborted →
          Provision.storing (ctx.channel config) options ∈ creating ∧
            (start.noProvision = false →
              ⟨.execute (Guest.provisionCommand options) (ctx.provisionChannel config), .ok ()⟩ ∈
                creating)) ∧
        ∀ machines, Truthful machines creating → phase = .stopped := by
  obtain ⟨selection, phase, hcreation, hconfig⟩ :=
    creation_of_runs_query consistent created spared asked hs
  have hasked : (∀ text, start.ip = some text →
        ∃ a, Ipv4.ofText? (Text.trim text) = some a ∧ a.subnet = selection.interface.ip) ∧
      (∀ domain, start.domain = some domain →
        ctx.table.subnetOfDomain domain = .ok selection.interface.ip) ∧
      (start.ip = none → start.domain = none → selection.interface.ip ∈ ctx.table.subnets) := by
    cases hcreation with
    | intro himported _ _ => exact himported.asked
  obtain ⟨hip, hdomain, hnone⟩ := hasked
  have haddress : config.ip = selection.interface.ip.vmAddress := congrArg VmConfig.ip hconfig
  have hlookup : config.domain = ctx.table.domainOfAddress selection.interface.ip.vmAddress :=
    congrArg VmConfig.domain hconfig
  refine ⟨selection, phase, hcreation, congrArg VmConfig.name hconfig,
    congrArg VmConfig.memory hconfig, congrArg VmConfig.cpus hconfig, haddress, ?_, hip,
    fun domain hd => ?_, hnone, .ofStart config start ctx.settings.defaultServices, rfl, rfl,
    hcreation.provisions, hcreation.provisioned,
    fun machines truthful => hcreation.stopped truthful⟩
  · rw [haddress, hlookup]
  · refine ⟨hdomain domain hd, ?_⟩
    rw [hlookup, uniform.domainOfAddress_of_subnetOfDomain (hdomain domain hd)]

end

/-! ### A VM with an address and a domain of its own -/

namespace CustomVm

def ctx : Context := ⟨.defaults ⟨[]⟩, .builtIn⟩

def start : StartOptions :=
  { StartOptions.none with
    memory := some 8192, ip := some "192.168.33.42", domain := some "local3.pcfdev.io" }

def config : VmConfig :=
  ⟨"pcfdev-v1", ⟨192, 168, 33, 11⟩, "local3.pcfdev.io", 2222, 8192, 2⟩

def options : ProvisionOptions :=
  .ofStart config start ctx.settings.defaultServices

/-- The hypervisor has an idle adapter in the subnet of the domain. -/
def inventory : Inventory :=
  ⟨fun adapter => if adapter = "vboxnet1" then some ⟨192, 168, 33, 1⟩ else none, fun _ => none⟩

def importing : List Exchange :=
  [⟨.registered, .ok []⟩, ⟨.tell "Importing VM...", ()⟩,
   ⟨.hostOnlyAdapters, .ok [.present "vboxnet1" ⟨192, 168, 33, 1⟩]⟩,
   ⟨.hostInterfaces, .ok [.present "vboxnet1" ⟨192, 168, 33, 1⟩]⟩,
   ⟨.probe ⟨192, 168, 33, 11⟩, .ok false⟩,
   ⟨.register "pcfdev-v1" (ctx.newImage start), .ok ()⟩,
   ⟨.setResources "pcfdev-v1" ⟨8192, 2⟩, .ok ()⟩,
   ⟨.attachAdapter "vboxnet1" "pcfdev-v1", .ok ()⟩, ⟨.unusedPort, .ok (2222 : UInt16)⟩,
   ⟨.addForwarding "pcfdev-v1" "ssh" 2222 22, .ok ()⟩,
   ⟨.tell "PCF Dev is now imported to Virtualbox.", ()⟩]

def reading (state : RunState) : List Exchange :=
  [⟨.isRegistered "pcfdev-v1", .ok true⟩, ⟨.vmAddress "pcfdev-v1", .ok ⟨192, 168, 33, 11⟩⟩,
   ⟨.forwardedPort "pcfdev-v1" "ssh", .ok 2222⟩, ⟨.resources "pcfdev-v1", .ok ⟨8192, 2⟩⟩,
   ⟨.runState "pcfdev-v1", .ok state⟩]

def starting : List Exchange :=
  Provision.beforeStoring config ++
  [Provision.storing (ctx.channel config) options,
   ⟨.execute Guest.installPasswordCommand (ctx.channel config), .ok ()⟩,
   ⟨.tell "Provisioning VM...", ()⟩,
   ⟨.execute (Guest.provisionCommand options) (ctx.provisionChannel config), .ok ()⟩,
   ⟨.tell (Guest.welcomeText "local3.pcfdev.io"), ()⟩]

def creating : List Exchange :=
  importing ++ (reading .poweredOff ++ starting)

/-- The VM is suspended once it is created. -/
def between : List Exchange :=
  [⟨.suspend "pcfdev-v1", .ok ()⟩]

theorem askedSubnet : ctx.askedSubnet start = .ok (some ⟨192, 168, 33, 1⟩) := by
  decide +kernel

theorem runs_importing :
    Runs (Snapshot.create ctx "pcfdev-v1" start).run importing (some (.ok ())) := by
  unfold Snapshot.create
  rw [askedSubnet]
  exact .ask _ (.ask _ (.note (.ask _ (.ask _ (.ask _ (.note (.ask _ (.ask _ (.ask _ (.ask _
    (.ask _ (.note (.ask _ (.done _))))))))))))))

theorem runs_creating :
    Runs (Snapshot.start ctx start 1 (.notCreated "pcfdev-v1")).run creating (some (.ok ())) := by
  have hreading : Runs (ctx.query "pcfdev-v1").run (reading .poweredOff)
      (some (.ok (.existing .stopped config))) :=
    .ask _ (.ask _ (.ask _ (.ask _ (.ask _ (.note (.done _))))))
  have hstarting : Runs (Snapshot.start ctx start 0 (.existing .stopped config)).run starting
      (some (.ok ())) :=
    .ask _ (.note (.ask _ (.ask _ (.ask _ (.note (.ask _ (.note (.ask _ (.note (.ask _
      (.done _)))))))))))
  exact (runs_run_bind_append runs_importing).2 ((runs_run_bind_append hreading).2 hstarting)

theorem admits_adapters :
    inventory.Admits ⟨.hostOnlyAdapters, .ok [.present "vboxnet1" ⟨192, 168, 33, 1⟩]⟩ := by
  intro i hi _
  rw [List.mem_singleton.1 hi]
  rfl

theorem consistent : inventory.Consistent (creating ++ between ++ reading .suspended) := by
  refine ⟨trivial, trivial, admits_adapters, trivial, trivial, trivial, trivial, trivial, trivial,
    trivial, trivial, ?_, ?_, ?_, ?_, trivial, trivial, trivial, trivial, trivial, trivial, trivial,
    trivial, trivial, ?_, ?_, ?_, ?_, trivial, trivial⟩
  · rfl
  · exact ⟨_, _, _, rfl, rfl, rfl, rfl⟩
  · exact ⟨_, rfl, rfl⟩
  · exact ⟨_, rfl, rfl⟩
  · rfl
  · exact ⟨_, _, _, rfl, rfl, rfl, rfl⟩
  · exact ⟨_, rfl, rfl⟩
  · exact ⟨_, rfl, rfl⟩

theorem spares_between : ∀ x ∈ between, x.call.records? ≠ some "pcfdev-v1" := by
  decide

theorem runs_reading : Runs (ctx.query "pcfdev-v1").run (reading .suspended)
    (some (.ok (.existing .suspended config))) :=
  .ask _ (.ask _ (.ask _ (.ask _ (.ask _ (.note (.done _))))))

end CustomVm

open CustomVm in
/-- The VM is found suspended later, with what it was created with. -/
theorem created_with_domain :
    ctx.table.Uniform ∧
      inventory.Consistent (creating ++ between ++ reading .suspended) ∧
      Runs (Snapshot.start ctx start 1 (.notCreated "pcfdev-v1")).run creating (some (.ok ())) ∧
      (∀ x ∈ between, x.call.records? ≠ some "pcfdev-v1") ∧
      Runs (ctx.query "pcfdev-v1").run (reading .suspended)
        (some (.ok (.existing .suspended config))) ∧
      ∃ selection phase, Creation ctx "pcfdev-v1" start selection phase config creating ∧
        config.memory = 8192 ∧ config.cpus = 2 ∧ config.domain = "local3.pcfdev.io" := by
  obtain ⟨selection, phase, hcreation, -, hmemory, hcpus, -, -, -, hdomain, -⟩ :=
    created_as_asked AddressTable.uniform_builtIn consistent runs_creating spares_between
      runs_reading rfl
  exact ⟨AddressTable.uniform_builtIn, consistent, runs_creating, spares_between, runs_reading,
    selection, phase, hcreation, hmemory, hcpus, (hdomain _ rfl).2⟩

end VmLifecycle
