import VmLifecycle.Effect.Trace

/-!
# What calls change

Which VM a call changes, which answers are faults, and what is known of a
hypervisor's VMs when nothing else is known of it: a call changes no VM but the
one it names.
-/

namespace VmLifecycle

/-- The VM that a call is to change. -/
def Call.changes? : Call → Option String
  | .powerOn name => some name
  | .powerOff name => some name
  | .suspend name => some name
  | .resume name => some name
  | .unregister name => some name
  | .register name _ => some name
  | .setResources name _ => some name
  | .attachAdapter _ name => some name
  | .addForwarding name _ _ _ => some name
  | _ => none

/-- The calls by which the VM `name` is set up once it is registered. -/
inductive Call.SetsUp (name : String) : Call → Prop
  | resources (resources : Resources) : SetsUp name (.setResources name resources)
  | adapter (adapter : String) : SetsUp name (.attachAdapter adapter name)
  /-- The host is asked for the port that is to lead to the VM. -/
  | port : SetsUp name .unusedPort
  | forwarding (rule : String) (hostPort guestPort : UInt16) :
      SetsUp name (.addForwarding name rule hostPort guestPort)

theorem Call.SetsUp.changes? {call : Call} {name : String} (h : call.SetsUp name) :
    call.changes? = some name ∨ call = .unusedPort := by
  cases h with
  | port => exact .inr rfl
  | _ => exact .inl rfl

/-- The fault that an exchange ended in. -/
def Exchange.fault? : Exchange → Option Fault
  | ⟨.powerOn _, .error fault⟩ => some fault
  | ⟨.powerOff _, .error fault⟩ => some fault
  | ⟨.suspend _, .error fault⟩ => some fault
  | ⟨.resume _, .error fault⟩ => some fault
  | ⟨.unregister _, .error fault⟩ => some fault
  | ⟨.isRegistered _, .error fault⟩ => some fault
  | ⟨.isRunning _, .error fault⟩ => some fault
  | ⟨.runState _, .error fault⟩ => some fault
  | ⟨.vmAddress _, .error fault⟩ => some fault
  | ⟨.forwardedPort _ _, .error fault⟩ => some fault
  | ⟨.resources _, .error fault⟩ => some fault
  | ⟨.hostOnlyAdapters, .error fault⟩ => some fault
  | ⟨.createAdapter _, .error fault⟩ => some fault
  | ⟨.attachAdapter _ _, .error fault⟩ => some fault
  | ⟨.register _ _, .error fault⟩ => some fault
  | ⟨.setResources _ _, .error fault⟩ => some fault
  | ⟨.addForwarding _ _ _ _, .error fault⟩ => some fault
  | ⟨.registered, .error fault⟩ => some fault
  | ⟨.report _, .error fault⟩ => some fault
  | ⟨.hostInterfaces, .error fault⟩ => some fault
  | ⟨.probe _, .error fault⟩ => some fault
  | ⟨.unusedPort, .error fault⟩ => some fault
  | ⟨.execute _ _, .error fault⟩ => some fault
  | ⟨.commandOutput _ _, .error fault⟩ => some fault
  | ⟨.openSession _, .error fault⟩ => some fault
  | ⟨.freeMemory, .error fault⟩ => some fault
  | _ => none

/-- The VMs of a hypervisor by name, each with what it is. -/
abbrev Machines (σ : Type) := String → Option σ

/-- A hypervisor by what each exchange does to its VMs. -/
structure HypervisorModel (σ : Type) where
  after : Machines σ → Exchange → Machines σ
  /-- An exchange leaves every VM alone but the one that its call is to change. -/
  after_of_ne : ∀ (machines : Machines σ) (x : Exchange) (name : String),
    x.call.changes? ≠ some name → after machines x name = machines name

namespace HypervisorModel

variable {σ : Type} (model : HypervisorModel σ)

def afterAll (machines : Machines σ) (trace : List Exchange) : Machines σ :=
  trace.foldl model.after machines

theorem afterAll_append (machines : Machines σ) (first second : List Exchange) :
    model.afterAll machines (first ++ second) =
      model.afterAll (model.afterAll machines first) second :=
  List.foldl_append

/-- A VM that no call is to change stays as it is. -/
theorem afterAll_of_ne {machines : Machines σ} {trace : List Exchange} {name : String}
    (h : ∀ x ∈ trace, x.call.changes? ≠ some name) :
    model.afterAll machines trace name = machines name := by
  induction trace generalizing machines with
  | nil => rfl
  | cons x trace ih =>
      calc model.afterAll machines (x :: trace) name
          = model.afterAll (model.after machines x) trace name := rfl
        _ = model.after machines x name := ih fun y hy => h y (by simp [hy])
        _ = machines name := model.after_of_ne machines x name (h x (by simp))

/-- A call that fails changes nothing, and a VM that was removed is gone. -/
structure Transactional (model : HypervisorModel σ) : Prop where
  after_of_fault : ∀ (machines : Machines σ) (x : Exchange) (fault : Fault),
    x.fault? = some fault → model.after machines x = machines
  after_unregister : ∀ (machines : Machines σ) (name : String),
    model.after machines ⟨.unregister name, .ok ()⟩ name = none

end HypervisorModel

end VmLifecycle
