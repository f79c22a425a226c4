import VmLifecycle.Proofs.Hypervisor.Registration
import VmLifecycle.Proofs.Lifecycle.Inspection

/-!
# Operations that handle a VM

What is done to a VM is done from outside its guest, but for the commands that
are run there when the VM is brought up. Each operation is shown once to make no
other calls, and what holds of these calls holds of the operation.
-/

namespace VmLifecycle

open Program
open Simulation (runsScript)

variable {ctx : Context} {config : VmConfig} {s : Snapshot} {name : String}

/-! ## From outside the guest -/

/-- A call that changes one VM from outside its guest, or no VM at all. -/
def Call.Handles (name : String) (call : Call) : Prop :=
  call.isIdle = true ∨ call.changes? = some name

theorem Call.channel?_of_handles {call : Call} (h : call.Handles name) :
    call.channel? = none := by
  rcases h with hidle | hchanges
  · exact (Call.isIdle_iff.1 hidle).2.1
  · cases call <;> first | rfl | cases hchanges

theorem Call.inquires_of_handles {call : Call} (h : call.Handles name) :
    call.inquires = false := by
  rcases h with hidle | hchanges
  · exact (Call.isIdle_iff.1 hidle).2.2
  · cases call <;> first | rfl | cases hchanges

theorem Call.changes?_of_handles {call : Call} (h : call.Handles name) {other : String}
    (hother : call.changes? = some other) : other = name := by
  rcases h with hidle | hchanges
  · rw [(Call.isIdle_iff.1 hidle).1] at hother
    cases hother
  · rw [hchanges] at hother
    exact (Option.some.inj hother).symm

/-- Where a snapshot holds a configuration, it is that of the VM called `name`. -/
def Snapshot.Concerns (name : String) (s : Snapshot) : Prop :=
  ∀ config, s.config? = some config → config.name = name

theorem Snapshot.exists_concerns (s : Snapshot) : ∃ name, s.Concerns name := by
  cases s with
  | existing phase config =>
      refine ⟨config.name, ?_⟩
      rintro _ ⟨⟩
      rfl
  | _ => exact ⟨"", nofun⟩

theorem Snapshot.IsOf.concerns {port? : Option UInt16} (hs : s.IsOf name port?) :
    s.Concerns name := by
  rintro config hconfig
  cases s with
  | existing phase config =>
      cases hconfig
      exact hs.1
  | _ => cases hconfig

/-- A creation looks for another VM that runs, talks to the user and registers the VM. -/
theorem Snapshot.only_create {P : Call → Prop} {start : StartOptions}
    (hregistered : P .registered) (hrunning : ∀ other, P (.isRunning other))
    (htell : ∀ text, P (.tell text))
    (hregister : ∀ subnet, Only P (Hypervisor.register ctx.table name (ctx.newImage start)
      ⟨ctx.newResources start, subnet⟩).run) :
    Only P (Snapshot.create ctx name start).run := by
  refine only_run_bind (Looks.only_searching hregistered hrunning name) fun _ => ?_
  refine only_run_bind (only_run_except _) fun subnet => ?_
  exact only_run_announced htell (hregister subnet)

namespace Handles

/-- A program that looks at a VM of which nothing is known handles any VM. -/
theorem only_of_looks (ctx : Context) {α : Type} {p : Program α}
    (h : Only (Call.Looks ctx (.invalid "")) p) : Only (Call.Handles name) p := by
  refine h.mono fun call hcall => ?_
  cases hcall with
  | idle h => exact .inl h
  | print hs => cases hs
  | session hs => cases hs

theorem only_tell (text : String) : Only (Call.Handles name) (tell text).run :=
  only_run_tell _ (.inl rfl)

theorem only_ensure (ctx : Context) (name : String) (required : UInt64) :
    Only (Call.Handles name) (Memory.ensure required).run :=
  only_of_looks ctx (Looks.only_ensure required)

theorem only_announced {before after : String} {step : Step} {a : Attempt Unit}
    (h : Only (Call.Handles name) a.run) :
    Only (Call.Handles name) (do tell before; a.during step; tell after : Action Unit).run :=
  only_run_announced (fun _ => .inl rfl) h

theorem only_powerOff : Only (Call.Handles config.name) (Snapshot.powerOff config).run :=
  only_announced (only_call (.inr rfl))

theorem only_restore : Only (Call.Handles config.name) (Snapshot.restore config).run :=
  only_announced (only_call (.inr rfl))

theorem only_remove : Only (Call.Handles config.name) (Snapshot.remove config).run :=
  only_announced (only_call (.inr rfl))

theorem only_refuseConflict (ctx : Context) (other : String) :
    Only (Call.Handles name) (Snapshot.refuseConflict other).run :=
  only_of_looks ctx (Looks.only_refuseConflict other)

theorem only_register (table : AddressTable) (image : String) (spec : Hypervisor.NewVm) :
    Only (Call.Handles name) (Hypervisor.register table name image spec).run := by
  refine Hypervisor.only_register ?_ (.inr rfl) (fun adapter => ?_) (.inr rfl)
  · exact Hypervisor.only_reserve (.inl rfl) (.inl rfl) (fun _ => .inl rfl) fun _ => .inl rfl
  · refine Hypervisor.only_setUp.mono fun call hcall => ?_
    rcases hcall.changes? with hchanges | rfl
    · exact .inr hchanges
    · exact .inl rfl

theorem only_create (start : StartOptions) :
    Only (Call.Handles name) (Snapshot.create ctx name start).run :=
  Snapshot.only_create (.inl rfl) (fun _ => .inl rfl) (fun _ => .inl rfl) fun _ =>
    only_register _ _ _

theorem only_stop (ctx : Context) (hs : s.Concerns name) :
    Only (Call.Handles name) s.stop.run := by
  cases s with
  | notCreated missing =>
      exact only_run_bind (only_refuseConflict ctx missing) fun _ => only_tell _
  | existing phase config =>
      obtain rfl := hs config rfl
      cases phase <;> first | exact only_powerOff | exact only_tell _ | trivial
  | invalid => exact only_run_throw _

theorem only_suspend (hs : s.Concerns name) :
    Only (Call.Handles name) s.suspend.run := by
  cases s with
  | notCreated => exact only_run_throw _
  | existing phase config =>
      obtain rfl := hs config rfl
      cases phase with
      | running => exact only_announced (only_call (.inr rfl))
      | _ => first | exact only_tell _ | exact only_run_throw _
  | invalid => exact only_run_throw _

theorem only_resume (hs : s.Concerns name) :
    Only (Call.Handles name) s.resume.run := by
  cases s with
  | notCreated => exact only_run_throw _
  | existing phase config =>
      obtain rfl := hs config rfl
      cases phase <;> first | exact only_restore | exact only_tell _ | trivial
  | invalid => exact only_run_throw _

theorem only_destroy (hs : s.Concerns name) :
    Only (Call.Handles name) s.destroy.run := by
  cases s with
  | notCreated => exact only_tell _
  | existing phase config =>
      obtain rfl := hs config rfl
      cases phase with
      | running =>
          refine only_run_bind (only_tell _) fun _ => ?_
          refine only_run_bind (only_run_adapt (only_call (.inr rfl))) fun _ => ?_
          exact only_run_bind (only_run_adapt (only_call (.inr rfl))) fun _ => only_tell _
      | _ => first | exact only_remove | exact only_run_throw _
  | invalid => exact only_run_throw _

end Handles

/-! ## In the guest -/

theorem runsScript_provisionCommand (options : ProvisionOptions) :
    runsScript (Guest.provisionCommand options) = true := by
  unfold runsScript Guest.provisionCommand
  simp only [String.toList_append, List.append_assoc]
  rfl

theorem runsScript_storeOptionsCommand (options : ProvisionOptions) :
    runsScript (Guest.storeOptionsCommand options) = false := by
  unfold runsScript Guest.storeOptionsCommand
  simp only [String.toList_append]
  rfl

theorem runsScript_installPasswordCommand :
    runsScript Guest.installPasswordCommand = false := by
  unfold runsScript Guest.installPasswordCommand
  simp only [String.toList_append]
  rfl

/-- A call by which a VM is brought up: it handles the VM, or runs a command in its
guest, with the time of the script for the script. -/
inductive Call.BringsUp (ctx : Context) (config : VmConfig) : Call → Prop
  | handle {call : Call} (h : call.Handles config.name) : BringsUp ctx config call
  | command {command : String} (h : runsScript command = false) :
      BringsUp ctx config (.execute command (ctx.channel config))
  | script {command : String} (h : runsScript command = true) :
      BringsUp ctx config (.execute command (ctx.provisionChannel config))

namespace BringsUp

theorem only_of_handles {α : Type} {p : Program α} (h : Only (Call.Handles config.name) p) :
    Only (Call.BringsUp ctx config) p :=
  h.mono fun _ => .handle

theorem only_provisionGuest (options : ProvisionOptions) :
    Only (Call.BringsUp ctx config) (Provision.provisionGuest ctx config options).run := by
  refine only_run_bind (only_run_log _) fun _ => ?_
  refine only_run_bind (only_call ?_) fun _ => only_run_log _
  exact .script (runsScript_provisionCommand options)

theorem only_prepare (options : ProvisionOptions) :
    Only (Call.BringsUp ctx config) (Provision.prepare ctx config options).run := by
  refine only_run_bind (only_call ?_) fun _ => ?_
  · exact .command (runsScript_storeOptionsCommand options)
  refine only_run_bind (only_call ?_) fun _ => only_run_log _
  exact .command runsScript_installPasswordCommand

theorem only_complete (options : ProvisionOptions) (help : String) :
    Only (Call.BringsUp ctx config) (do
      tell "Provisioning VM..."
      (Provision.provisionGuest ctx config options).during .provision
      tell help : Action Unit).run := by
  refine only_run_bind (only_of_handles (Handles.only_tell _)) fun _ => ?_
  refine only_run_bind (only_run_adapt (only_provisionGuest options)) fun _ => ?_
  exact only_of_handles (Handles.only_tell _)

theorem only_bringUp (start : StartOptions) :
    Only (Call.BringsUp ctx config) (Provision.bringUp ctx config start).run := by
  refine only_run_bind (only_of_handles (Handles.only_tell _)) fun _ => ?_
  refine only_run_bind (only_run_adapt (only_call (.handle (.inr rfl)))) fun _ => ?_
  refine only_run_bind (only_run_adapt (only_prepare _)) fun _ => ?_
  split
  · exact only_of_handles (Handles.only_tell _)
  · exact only_complete _ _

theorem only_startExisting (start : StartOptions) (phase : Phase) :
    Only (Call.BringsUp ctx config) (Snapshot.startExisting ctx start config phase).run := by
  have hrestore : Only (Call.BringsUp ctx config) (Snapshot.restore config).run :=
    only_of_handles Handles.only_restore
  cases phase with
  | stopped => exact only_bringUp start
  | running => exact only_of_handles (Handles.only_tell _)
  | suspended => exact hrestore
  | paused => exact hrestore
  | saved => exact hrestore
  | aborted =>
      refine only_run_bind (only_of_handles (Handles.only_ensure ctx _ _)) fun _ => ?_
      exact only_bringUp start
  | unprovisioned => exact only_run_throw _
  | recoverable => exact only_run_throw _

end BringsUp

end VmLifecycle
