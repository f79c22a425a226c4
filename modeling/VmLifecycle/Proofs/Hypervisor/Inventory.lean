import VmLifecycle.Lifecycle.Query
import VmLifecycle.Proofs.Effect.Along
import VmLifecycle.Proofs.Hypervisor.RunStates

/-!
# What a hypervisor was told

A hypervisor that stores what it is told: the resources, the adapter and the
forwarded ports of each VM, and the address of each adapter. It says of a VM what
is stored, and for the VM's address the usual one in the subnet of its adapter.
A new adapter gets a name that no adapter has.

Its answers may fail at any time. Where it answers, a query puts the
configuration of a VM together from what is stored.
-/

namespace VmLifecycle

/-- What is stored of a VM. -/
structure VmRecord where
  resources : Option Resources
  adapter : Option String
  /-- The ports of the host that its rules forward. -/
  ports : String → Option UInt16

/-- A VM of which nothing was told. -/
def VmRecord.blank : VmRecord :=
  ⟨none, none, fun _ => none⟩

/-- What is stored: the addresses of adapters, and the VMs. -/
structure Inventory where
  adapters : String → Option Ipv4
  vms : Machines VmRecord

/-- The VM whose record a call is to change. -/
def Call.records? : Call → Option String
  | .register name _ => some name
  | .unregister name => some name
  | .setResources name _ => some name
  | .attachAdapter _ name => some name
  | .addForwarding name _ _ _ => some name
  | _ => none

namespace Inventory

variable {inv : Inventory} {table : AddressTable} {name : String} {config : VmConfig}
  {x : Exchange} {trace : List Exchange}

def update (inv : Inventory) (name : String) (change : VmRecord → VmRecord) : Inventory :=
  { inv with vms := inv.vms.set name ((inv.vms name).map change) }

/-- What is stored after an exchange. A call that fails changes nothing. -/
def after (inv : Inventory) : Exchange → Inventory
  | ⟨.createAdapter ip, .ok adapter⟩ =>
    { inv with adapters := fun other => if other = adapter then some ip else inv.adapters other }
  | ⟨.register name _, .ok ()⟩ => { inv with vms := inv.vms.set name (some .blank) }
  | ⟨.unregister name, .ok ()⟩ => { inv with vms := inv.vms.set name none }
  | ⟨.setResources name resources, .ok ()⟩ =>
    inv.update name fun vm => { vm with resources := some resources }
  | ⟨.attachAdapter adapter name, .ok ()⟩ =>
    inv.update name fun vm => { vm with adapter := some adapter }
  | ⟨.addForwarding name rule port _, .ok ()⟩ =>
    inv.update name fun vm =>
      { vm with ports := fun other => if other = rule then some port else vm.ports other }
  | _ => inv

/-- What an exchange says agrees with what is stored. -/
def Admits (inv : Inventory) : Exchange → Prop
  | ⟨.isRegistered name, .ok registered⟩ => registered = (inv.vms name).isSome
  | ⟨.hostOnlyAdapters, .ok adapters⟩ =>
    ∀ i ∈ adapters, i.isPresent = true → inv.adapters i.name = some i.ip
  | ⟨.createAdapter _, .ok adapter⟩ => inv.adapters adapter = none
  | ⟨.vmAddress name, .ok ip⟩ => ∃ vm adapter host, inv.vms name = some vm ∧
    vm.adapter = some adapter ∧ inv.adapters adapter = some host ∧ ip = host.vmAddress
  | ⟨.forwardedPort name rule, .ok port⟩ =>
    ∃ vm, inv.vms name = some vm ∧ vm.ports rule = some port
  | ⟨.resources name, .ok resources⟩ =>
    ∃ vm, inv.vms name = some vm ∧ vm.resources = some resources
  | _ => True

/-- A trace on which the hypervisor stores what it is told, and says what is stored. -/
def Consistent (inv : Inventory) (trace : List Exchange) : Prop :=
  Along after Admits inv trace

def afterAll (inv : Inventory) (trace : List Exchange) : Inventory :=
  trace.foldl after inv

theorem afterAll_append (inv : Inventory) (first second : List Exchange) :
    inv.afterAll (first ++ second) = (inv.afterAll first).afterAll second :=
  List.foldl_append

theorem consistent_append {first second : List Exchange} : inv.Consistent (first ++ second) ↔
    inv.Consistent first ∧ (inv.afterAll first).Consistent second :=
  along_append

/-- The configuration of a VM, as far as it is stored. -/
def configuration? (inv : Inventory) (table : AddressTable) (name : String) : Option VmConfig := do
  let vm ← inv.vms name
  let adapter ← vm.adapter
  let host ← inv.adapters adapter
  let port ← vm.ports Guest.sshRule
  let resources ← vm.resources
  return ⟨name, host.vmAddress, table.domainOfAddress host.vmAddress, port, resources.memory,
    resources.cpus⟩

theorem configuration?_eq_some : inv.configuration? table name = some config ↔
    ∃ vm adapter host port resources, inv.vms name = some vm ∧ vm.adapter = some adapter ∧
      inv.adapters adapter = some host ∧ vm.ports Guest.sshRule = some port ∧
      vm.resources = some resources ∧
      config = ⟨name, host.vmAddress, table.domainOfAddress host.vmAddress, port,
        resources.memory, resources.cpus⟩ := by
  simp only [configuration?, Option.bind_eq_bind, Option.bind_eq_some_iff, Option.pure_def,
    Option.some.injEq, eq_comm (b := config)]
  constructor
  · rintro ⟨vm, hvm, adapter, hadapter, host, hhost, port, hport, resources, hresources, h⟩
    exact ⟨vm, adapter, host, port, resources, hvm, hadapter, hhost, hport, hresources, h⟩
  · rintro ⟨vm, adapter, host, port, resources, hvm, hadapter, hhost, hport, hresources, h⟩
    exact ⟨vm, hvm, adapter, hadapter, host, hhost, port, hport, resources, hresources, h⟩

/-- A VM that was set up has what it was given. -/
theorem configuration?_setUp {adapter image : String} {host : Ipv4} {resources : Resources}
    {port : UInt16} (h : inv.adapters adapter = some host) :
    (inv.afterAll [⟨.register name image, .ok ()⟩, ⟨.setResources name resources, .ok ()⟩,
        ⟨.attachAdapter adapter name, .ok ()⟩, ⟨.unusedPort, .ok port⟩,
        ⟨.addForwarding name Guest.sshRule port Guest.sshPort, .ok ()⟩]).configuration? table name =
      some ⟨name, host.vmAddress, table.domainOfAddress host.vmAddress, port, resources.memory,
        resources.cpus⟩ := by
  let vm : VmRecord := ⟨some resources, some adapter, fun rule =>
    if rule = Guest.sshRule then some port else none⟩
  refine configuration?_eq_some.2 ⟨vm, adapter, host, port, resources, ?_, rfl, h, ?_, rfl, rfl⟩
  · simp only [afterAll, List.foldl_cons, List.foldl_nil, after, update, Machines.set_self,
      Option.map_some, VmRecord.blank, vm]
  · simp [vm]

/-! ## What stays as it is -/

/-- A VM whose record no call is to change stays as it is. -/
theorem vms_after (h : x.call.records? ≠ some name) : (inv.after x).vms name = inv.vms name := by
  obtain ⟨call, reply⟩ := x
  cases call
  case register | unregister | setResources | attachAdapter | addForwarding =>
    have hne := fun heq => h (congrArg some heq)
    rcases reply with fault | ⟨⟩
    · rfl
    · exact Machines.set_of_ne _ (Ne.symm hne)
  case createAdapter => rcases reply with fault | adapter <;> rfl
  all_goals rfl

/-- No other adapter is given the name of one that is there. -/
theorem adapters_after {adapter : String} {host : Ipv4} (hx : inv.Admits x)
    (h : inv.adapters adapter = some host) : (inv.after x).adapters adapter = some host := by
  obtain ⟨call, reply⟩ := x
  cases call
  case createAdapter ip =>
    rcases reply with fault | created
    · exact h
    · have hfresh : inv.adapters created = none := hx
      have hne : adapter ≠ created := by
        rintro rfl
        rw [hfresh] at h
        cases h
      exact (if_neg hne).trans h
  case register | unregister | setResources | attachAdapter | addForwarding =>
    rcases reply with fault | ⟨⟩ <;> exact h
  all_goals exact h

theorem adapters_afterAll {adapter : String} {host : Ipv4} (consistent : inv.Consistent trace)
    (h : inv.adapters adapter = some host) : (inv.afterAll trace).adapters adapter = some host :=
  consistent.preserves (fun _ _ _ => adapters_after) h

theorem configuration?_afterAll (consistent : inv.Consistent trace)
    (htrace : ∀ x ∈ trace, x.call.records? ≠ some name)
    (h : inv.configuration? table name = some config) :
    (inv.afterAll trace).configuration? table name = some config := by
  have hstep : ∀ inv : Inventory, ∀ x ∈ trace, inv.Admits x →
      inv.configuration? table name = some config →
      (inv.after x).configuration? table name = some config := by
    intro inv x hx hadmits h
    obtain ⟨vm, adapter, host, port, resources, hvm, hadapter, hhost, hrest⟩ :=
      configuration?_eq_some.1 h
    refine configuration?_eq_some.2 ⟨vm, adapter, host, port, resources, ?_, hadapter,
      adapters_after hadmits hhost, hrest⟩
    rw [vms_after (htrace x hx), hvm]
  exact consistent.preserves hstep h

/-! ## What is read -/

/-- What a snapshot says of the VM called `name` is what is stored. -/
def Describes (inv : Inventory) (table : AddressTable) (name : String) : Snapshot → Prop
  | .notCreated _ => inv.vms name = none
  | .existing _ config => inv.configuration? table name = some config
  | .invalid _ => True

/-- The configuration that is read is the one that is stored. -/
theorem maintains_configuration :
    (Hypervisor.configuration table name).run.Maintains after Admits (fun _ _ => True)
      (fun outcome later => later = inv ∧
        ∀ config, outcome = .ok config → inv.configuration? table name = some config) inv := by
  refine fun reply haddress => ⟨trivial, ?_⟩
  rcases reply with fault | ip
  · exact ⟨rfl, nofun⟩
  refine fun reply hport => ⟨trivial, ?_⟩
  rcases reply with fault | port
  · exact ⟨rfl, nofun⟩
  refine fun reply hresources => ⟨trivial, ?_⟩
  rcases reply with fault | resources
  · exact ⟨rfl, nofun⟩
  refine ⟨rfl, ?_⟩
  rintro _ ⟨⟩
  obtain ⟨vm, adapter, host, hvm, hadapter, hhost, rfl⟩ := haddress
  obtain ⟨_, hsame, hport⟩ := hport
  cases hvm.symm.trans hsame
  obtain ⟨_, hsame, hresources⟩ := hresources
  cases hvm.symm.trans hsame
  exact configuration?_eq_some.2
    ⟨vm, adapter, host, port, resources, hvm, hadapter, hhost, hport, hresources, rfl⟩

/-- A query tells what is stored, and changes nothing. -/
theorem maintains_query {ctx : Context} :
    (ctx.query name).run.Maintains after Admits (fun _ _ => True)
      (fun outcome later => later = inv ∧
        ∀ s, outcome = .ok s → inv.Describes ctx.table name s) inv := by
  refine fun reply hregistered => ⟨trivial, ?_⟩
  rcases reply with fault | registered
  · exact ⟨rfl, nofun⟩
  have hregistered : registered = (inv.vms name).isSome := hregistered
  cases registered with
  | false =>
      refine ⟨rfl, ?_⟩
      rintro _ ⟨⟩
      exact Option.not_isSome_iff_eq_none.1 (by simp [← hregistered])
  | true =>
      have hinspect : (ctx.inspect name).Maintains after Admits (fun _ _ => True)
          (fun s later => later = inv ∧ inv.Describes ctx.table name s) inv := by
        refine maintains_configuration.bind ?_
        rintro outcome _ ⟨rfl, hstored⟩
        rcases outcome with fault | config
        · exact ⟨rfl, trivial⟩
        have hconfig := hstored config rfl
        refine fun reply _ => ⟨trivial, ?_⟩
        rcases reply with fault | state
        · exact ⟨rfl, trivial⟩
        cases state with
        | running =>
            refine fun reply _ => ⟨trivial, ?_⟩
            rcases reply with fault | output
            · exact ⟨rfl, hconfig⟩
            · exact ⟨rfl, hconfig⟩
        | unknown => exact ⟨rfl, trivial⟩
        | _ => exact ⟨rfl, hconfig⟩
      refine hinspect.bind ?_
      rintro s _ ⟨rfl, hs⟩
      refine ⟨rfl, ?_⟩
      rintro _ ⟨⟩
      exact hs

/-- A query that reads the configuration of a VM reads what is stored. -/
theorem describes_of_runs_query {ctx : Context} {s : Snapshot} (consistent : inv.Consistent trace)
    (run : Program.Runs (ctx.query name).run trace (some (.ok s))) :
    inv.Describes ctx.table name s ∧ inv.afterAll trace = inv := by
  obtain ⟨-, hresult⟩ := maintains_query.outcome consistent run
  obtain ⟨hlater, hs⟩ := hresult _ rfl
  exact ⟨hs s rfl, hlater⟩

end Inventory

end VmLifecycle
