import VmLifecycle.Proofs.Lifecycle.Admission

/-!
# Addresses that users ask for

An address that is asked for stands for its subnet. In every subnet the VM has
one and the same last octet, so the VM gets the address itself if it ends in
this octet, and a neighbour of it if not. Every last octet is accepted. What is
no address is refused, and so is one that is not in the subnet of the domain that
is asked for with it.
-/

namespace VmLifecycle

open Program

section

variable {ctx : Context} {name : String} {start : StartOptions} {config : VmConfig}
  {trace : List Exchange} {inv : Inventory} {r : Option (Except LifecycleError Unit)}
  {e : LifecycleError}

/-- A start is refused if no subnet can be told from what is asked for. -/
theorem refused_of_runs_start {imports : Nat} (h : ctx.askedSubnet start = .error e)
    (run : Runs (Snapshot.start ctx start (imports + 1) (.notCreated name)).run trace r) :
    ∃ e', r = some (.error e') := by
  rcases runs_run_bind.1 run with ⟨⟨⟩, creating, rest, rfl, hcreate, -⟩ | ⟨e', -, rfl⟩ |
    ⟨hcreate, -⟩
  · obtain ⟨selection, port, himported⟩ := imported_of_runs_create hcreate
    cases himported with
    | intro _ hsubnet =>
        rw [h] at hsubnet
        cases hsubnet
  · exact ⟨e', rfl⟩
  · obtain ⟨result, hresult, -⟩ := created_of_runs hcreate
    cases hresult

/-- And so is the check of the options before it. -/
theorem refused_of_runs_checkStart (h : ctx.askedSubnet start = .error e)
    (run : Runs (Snapshot.checkStart ctx start (.notCreated name)).run trace r) :
    ∃ e', r = some (.error e') := by
  cases hadmits : ctx.admitsNew start with
  | ok _ =>
      obtain ⟨-, -, subnet, hsubnet⟩ := Context.admitsNew_eq_ok.1 hadmits
      rw [h] at hsubnet
      cases hsubnet
  | error e' => exact ⟨e', ((checked_of_runs_checkStart run).refused e' hadmits).2⟩

/-- The creation of a VM in a subnet that is settled. -/
def Snapshot.createIn (ctx : Context) (name : String) (start : StartOptions) (subnet : Ipv4) :
    Action Unit := do
  refuseConflict name
  tell "Importing VM..."
  (Hypervisor.register ctx.table name (ctx.newImage start)
    ⟨ctx.newResources start, some subnet⟩).during .register
  tell "PCF Dev is now imported to Virtualbox."

theorem Snapshot.create_eq_createIn {subnet : Ipv4}
    (h : ctx.askedSubnet start = .ok (some subnet)) :
    create ctx name start = createIn ctx name start subnet := by
  unfold create createIn
  rw [h]
  rfl

/-- Where nothing is in the way, a start ends well once its subnet is settled. -/
theorem exists_runs_start_ok {subnet : Ipv4} (imports : Nat)
    (h : ctx.askedSubnet start = .ok (some subnet)) :
    ∃ trace, Runs (Snapshot.start ctx start (imports + 1) (.notCreated name)).run trace
      (some (.ok ())) := by
  let config : VmConfig := ⟨name, subnet.vmAddress, ctx.table.domainOfAddress subnet.vmAddress,
    2222, (ctx.newResources start).memory, (ctx.newResources start).cpus⟩
  let options : ProvisionOptions := .ofStart config start ctx.settings.defaultServices
  have hcreate : Runs (Snapshot.create ctx name start).run
      [⟨.registered, .ok []⟩, ⟨.tell "Importing VM...", ()⟩, ⟨.hostOnlyAdapters, .ok []⟩,
       ⟨.hostInterfaces, .ok []⟩, ⟨.createAdapter subnet, .ok "vboxnet0"⟩,
       ⟨.register name (ctx.newImage start), .ok ()⟩,
       ⟨.setResources name (ctx.newResources start), .ok ()⟩,
       ⟨.attachAdapter "vboxnet0" name, .ok ()⟩, ⟨.unusedPort, .ok (2222 : UInt16)⟩,
       ⟨.addForwarding name "ssh" 2222 22, .ok ()⟩,
       ⟨.tell "PCF Dev is now imported to Virtualbox.", ()⟩] (some (.ok ())) := by
    rw [Snapshot.create_eq_createIn h]
    exact .ask _ (.ask _ (.note (.ask _ (.ask _ (.note (.ask _ (.note (.ask _ (.ask _ (.ask _
      (.ask _ (.ask _ (.note (.ask _ (.done _)))))))))))))))
  have hquery : Runs (ctx.query name).run
      [⟨.isRegistered name, .ok true⟩, ⟨.vmAddress name, .ok subnet.vmAddress⟩,
       ⟨.forwardedPort name "ssh", .ok 2222⟩, ⟨.resources name, .ok (ctx.newResources start)⟩,
       ⟨.runState name, .ok .poweredOff⟩] (some (.ok (.existing .stopped config))) :=
    .ask _ (.ask _ (.ask _ (.ask _ (.ask _ (.note (.done _))))))
  obtain ⟨rest, haftermath⟩ : ∃ rest, Provision.Aftermath ctx config
      (Guest.provisionCommand options) (Guest.welcomeText config.domain) start.noProvision rest
      (.ok ()) := by
    cases hskip : start.noProvision with
    | true => exact ⟨_, .skipped rfl⟩
    | false => exact ⟨_, .provisioned rfl .succeeded⟩
  have hboot : Runs (Snapshot.start ctx start imports (.existing .stopped config)).run
      (Provision.beforeStoring config ++
        Provision.storing (ctx.channel config) options :: rest) (some (.ok ())) := by
    rw [Snapshot.start_existing]
    exact Provision.runs_bringUp_append.2 (Provision.runs_afterStoring.2 ⟨_, rfl, haftermath⟩)
  exact ⟨_, (runs_run_bind_append hcreate).2 ((runs_run_bind_append hquery).2 hboot)⟩

/-- A start that asks for an address gives the VM the usual address in its subnet,
or is refused. So the VM gets the address itself exactly if it ends as the
addresses of VMs do, and a domain that is asked for with it is that of the VM's
address. An address with any last octet is accepted, unless a domain is given with it
that is not that of its subnet: the check then depends on the other options and on
memory alone, and the start can end well and goes on with the subnet of the address.
A text that is no address is refused by the start and by the check before it, and so
is a domain that is unknown or that of another subnet. -/
theorem custom_address_names_subnet {text : String} (uniform : ctx.table.Uniform)
    (hip : start.ip = some text) :
    (∀ (imports : Nat) (creating between asking : List Exchange) (s : Snapshot)
        (config : VmConfig),
      inv.Consistent (creating ++ between ++ asking) →
      Runs (Snapshot.start ctx start imports (.notCreated name)).run creating (some (.ok ())) →
      (∀ x ∈ between, x.call.records? ≠ some name) →
      Runs (ctx.query name).run asking (some (.ok s)) → s.config? = some config →
      ∃ a, Ipv4.ofText? (Text.trim text) = some a ∧ config.ip = a.vmAddress ∧
        (config.ip = a ↔ a.d = 11) ∧
        ∀ domain, start.domain = some domain → ctx.table.domainOfAddress config.ip = domain ∧
          (a.d = 11 → ctx.table.domainOfAddress a = domain)) ∧
    (∀ a, start.Locates ctx.table a →
      ((∃ checking, Runs (Snapshot.checkStart ctx start (.notCreated name)).run checking
        (some (.ok ()))) ↔
          start.validate = .ok () ∧ minimumMemory ≤ (ctx.newResources start).memory) ∧
      ∀ imports,
        (Snapshot.start ctx start (imports + 1) (.notCreated name) = do
          Snapshot.createIn ctx name start a.subnet
          let found ← ctx.query name
          Snapshot.start ctx start imports found) ∧
        ∃ creating, Runs (Snapshot.start ctx start (imports + 1) (.notCreated name)).run creating
          (some (.ok ()))) ∧
    ((∀ a, ¬ start.Locates ctx.table a) →
      (∀ trace r, Runs (Snapshot.checkStart ctx start (.notCreated name)).run trace r →
        ∃ e, r = some (.error e)) ∧
      ∀ imports trace r,
        Runs (Snapshot.start ctx start (imports + 1) (.notCreated name)).run trace r →
        ∃ e, r = some (.error e)) := by
  refine ⟨fun imports creating between asking s config consistent created spared asked hs => ?_,
    fun a hlocates => ?_, fun hrefused => ?_⟩
  · obtain ⟨selection, phase, hcreation, hconfig⟩ :=
      creation_of_runs_query consistent created spared asked hs
    cases hcreation with
    | intro himported _ _ =>
        obtain ⟨haddress, hdomain, -⟩ := himported.asked
        obtain ⟨a, ha, hsubnet⟩ := haddress text hip
        have hvm : config.ip = a.vmAddress :=
          calc config.ip = selection.interface.ip.vmAddress := congrArg VmConfig.ip hconfig
            _ = a.subnet.vmAddress := by rw [hsubnet]
            _ = a.vmAddress := rfl
        refine ⟨a, ha, hvm, by rw [hvm]; exact Ipv4.vmAddress_eq_self, fun domain hd => ?_⟩
        have hdomainOf : ctx.table.domainOfAddress a.vmAddress = domain := by
          have hfound := uniform.domainOfAddress_of_subnetOfDomain (hdomain domain hd)
          rwa [← hsubnet] at hfound
        refine ⟨hvm ▸ hdomainOf, fun hd11 => ?_⟩
        rwa [Ipv4.vmAddress_eq_self.2 hd11] at hdomainOf
  · have hsubnet : ctx.askedSubnet start = .ok (some a.subnet) :=
      (Context.askedSubnet_eq_ok hip).2 ⟨a, hlocates, rfl⟩
    have hadmits : ctx.admitsNew start = .ok () ↔
        start.validate = .ok () ∧ minimumMemory ≤ (ctx.newResources start).memory := by
      rw [Context.admitsNew_eq_ok, hsubnet]
      simp
    refine ⟨exists_runs_checkStart_ok.trans hadmits, fun imports => ⟨?_, ?_⟩⟩
    · rw [Snapshot.start, Snapshot.create_eq_createIn hsubnet]
    · exact exists_runs_start_ok imports hsubnet
  · cases hsubnet : ctx.askedSubnet start with
    | ok subnet =>
        obtain ⟨a, hlocates, -⟩ := (Context.askedSubnet_eq_ok hip).1 hsubnet
        exact absurd hlocates (hrefused a)
    | error e =>
        exact ⟨fun trace r run => refused_of_runs_checkStart hsubnet run,
          fun imports trace r run => refused_of_runs_start hsubnet run⟩

end

open CustomVm in
/-- The VM is asked for at `192.168.33.42`, which is let pass, and found at
`192.168.33.11`. What is no address is refused, and so is a domain that the table
does not have, even the one that a VM at this address would be shown under. -/
theorem neighbour_of_custom_address :
    let misspelt : StartOptions := { start with ip := some "192.168.300.1" }
    let unlisted : StartOptions :=
      { start with ip := some "10.0.0.5", domain := some "10.0.0.11.xip.io" }
    ctx.table.Uniform ∧ start.ip = some "192.168.33.42" ∧
      inventory.Consistent (creating ++ between ++ reading .suspended) ∧
      Runs (Snapshot.start ctx start 1 (.notCreated "pcfdev-v1")).run creating (some (.ok ())) ∧
      (∀ x ∈ between, x.call.records? ≠ some "pcfdev-v1") ∧
      Runs (ctx.query "pcfdev-v1").run (reading .suspended)
        (some (.ok (.existing .suspended config))) ∧
      (∃ a, Ipv4.ofText? (Text.trim "192.168.33.42") = some a ∧ config.ip = a.vmAddress) ∧
      start.Locates ctx.table ⟨192, 168, 33, 42⟩ ∧
      (∃ checking, Runs (Snapshot.checkStart ctx start (.notCreated "pcfdev-v1")).run checking
        (some (.ok ()))) ∧
      (∀ a, ¬ misspelt.Locates ctx.table a) ∧
      (∀ imports trace r,
        Runs (Snapshot.start ctx misspelt (imports + 1) (.notCreated "pcfdev-v1")).run trace r →
        ∃ e, r = some (.error e)) ∧
      (∀ a, ¬ unlisted.Locates ctx.table a) ∧
      ctx.table.domainOfAddress ⟨10, 0, 0, 11⟩ = "10.0.0.11.xip.io" ∧
      ∀ trace r, Runs (Snapshot.checkStart ctx unlisted (.notCreated "pcfdev-v1")).run trace r →
        ∃ e, r = some (.error e) := by
  intro misspelt unlisted
  obtain ⟨hfound, haccepted, -⟩ := @custom_address_names_subnet ctx "pcfdev-v1" start inventory _
    AddressTable.uniform_builtIn rfl
  obtain ⟨a, ha, hvm, -⟩ := hfound 1 creating between (reading .suspended) _ config consistent
    runs_creating spares_between runs_reading rfl
  have hlocates : start.Locates ctx.table ⟨192, 168, 33, 42⟩ := by
    refine ⟨⟨_, rfl, by decide +kernel⟩, ?_⟩
    rintro _ ⟨⟩
    decide +kernel
  have hchecked := (haccepted _ hlocates).1.2 ⟨by decide +kernel, by decide +kernel⟩
  have hmisspelt : ∀ a, ¬ misspelt.Locates ctx.table a := by
    rintro a ⟨⟨_, ⟨⟩, haddress⟩, -⟩
    have hnone : Ipv4.ofText? (Text.trim "192.168.300.1") = none := by decide +kernel
    rw [hnone] at haddress
    cases haddress
  have hunlisted : ∀ a, ¬ unlisted.Locates ctx.table a := by
    rintro a ⟨-, hdomain⟩
    have hunknown : ctx.table.subnetOfDomain "10.0.0.11.xip.io" =
        .error (.unknownDomain "10.0.0.11.xip.io") := by decide +kernel
    cases hunknown.symm.trans (hdomain _ rfl)
  obtain ⟨-, -, hnotText⟩ := @custom_address_names_subnet ctx "pcfdev-v1" misspelt inventory _
    AddressTable.uniform_builtIn rfl
  obtain ⟨-, -, hnotListed⟩ := @custom_address_names_subnet ctx "pcfdev-v1" unlisted inventory _
    AddressTable.uniform_builtIn rfl
  exact ⟨AddressTable.uniform_builtIn, rfl, consistent, runs_creating, spares_between,
    runs_reading, ⟨a, ha, hvm⟩, hlocates, hchecked, hmisspelt, (hnotText hmisspelt).2, hunlisted,
    by decide +kernel, (hnotListed hunlisted).1⟩

open CustomVm in
/-- An address that no VM can have is accepted, by the check and by the start, and
not kept. Nor is it an address of the domain that it is accepted with. -/
theorem custom_address_not_kept :
    ctx.table.Uniform ∧ start.ip = some "192.168.33.42" ∧
      start.domain = some "local3.pcfdev.io" ∧
      Runs (Snapshot.checkStart ctx start (.notCreated "pcfdev-v1")).run
        [⟨.freeMemory, .ok 16384⟩] (some (.ok ())) ∧
      inventory.Consistent (creating ++ between ++ reading .suspended) ∧
      Runs (Snapshot.start ctx start 1 (.notCreated "pcfdev-v1")).run creating (some (.ok ())) ∧
      (∀ x ∈ between, x.call.records? ≠ some "pcfdev-v1") ∧
      Runs (ctx.query "pcfdev-v1").run (reading .suspended)
        (some (.ok (.existing .suspended config))) ∧
      Ipv4.ofText? (Text.trim "192.168.33.42") = some ⟨192, 168, 33, 42⟩ ∧
      config.ip ≠ ⟨192, 168, 33, 42⟩ ∧
      ctx.table.domainOfAddress ⟨192, 168, 33, 42⟩ ≠ "local3.pcfdev.io" := by
  have hchecked : Runs (Snapshot.checkStart ctx start (.notCreated "pcfdev-v1")).run
      [⟨.freeMemory, .ok 16384⟩] (some (.ok ())) := by
    unfold Snapshot.checkStart Snapshot.checkNew
    rw [askedSubnet]
    exact .ask _ (.done _)
  exact ⟨AddressTable.uniform_builtIn, rfl, rfl, hchecked, consistent, runs_creating,
    spares_between, runs_reading, by decide +kernel, by decide, by decide +kernel⟩

end VmLifecycle
