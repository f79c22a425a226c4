import VmLifecycle.Proofs.Lifecycle.Confinement

/-!
# Operations that only look

Some operations leave every VM as it is, and its guest too: checks before a
start, the search for another VM that runs, and all that is offered for a VM
besides moving it. Each is shown once to make no calls but those that look, so
what holds of such calls holds of the operation. Only a check before a start has to
do with the memory of the host.
-/

namespace VmLifecycle

open Program

/-- The calls by which a query learns what a VM is. -/
def Call.inquires : Call → Bool
  | .isRegistered _ => true
  | .vmAddress _ => true
  | .forwardedPort _ _ => true
  | .resources _ => true
  | .runState _ => true
  | _ => false

/-- A call that changes no VM, goes to no guest, and is not one of a query. -/
def Call.isIdle (call : Call) : Bool :=
  call.changes?.isNone && call.channel?.isNone && !call.inquires

theorem Call.isIdle_iff {call : Call} : call.isIdle = true ↔
    call.changes? = none ∧ call.channel? = none ∧ call.inquires = false := by
  simp only [Call.isIdle, Bool.and_eq_true, Option.isNone_iff_eq_none, Bool.not_eq_true',
    and_assoc]

theorem Call.isSettled_of_inquires {call : Call} (h : call.inquires = false) :
    call.isSettled = true := by
  cases call <;> first | rfl | cases h

/-- The commands that print something in a guest and change nothing there. -/
def Guest.printingCommands : List String :=
  [printMarkerCommand, printOptionsCommand, printCertificateCommand] ++
    DebugBundle.diagnostics.map (·.2)

/-- A call of an operation that only looks at a VM. -/
inductive Call.Looks (ctx : Context) (s : Snapshot) : Call → Prop
  | idle {call : Call} (h : call.isIdle = true) : Looks ctx s call
  | print {config : VmConfig} {command : String} (hs : s.config? = some config)
      (hcommand : command ∈ Guest.printingCommands) :
      Looks ctx s (.commandOutput command (ctx.channel config))
  | session {config : VmConfig} (hs : s.config? = some config) :
      Looks ctx s (.openSession (ctx.channel config))

/-- The calls by which the memory that a VM needs is weighed against what the host
has free. -/
def Call.weighsMemory : Call → Bool
  | .freeMemory => true
  | .consent _ => true
  | _ => false

/-- A call of an operation that looks at a VM and weighs no memory. -/
def Call.Views (ctx : Context) (s : Snapshot) (call : Call) : Prop :=
  call.Looks ctx s ∧ call.weighsMemory = false

variable {ctx : Context} {s : Snapshot} {config : VmConfig}

/-! ## The operations -/

namespace Views

theorem idle {call : Call} (h : call.isIdle = true) (hmemory : call.weighsMemory = false) :
    call.Views ctx s :=
  ⟨.idle h, hmemory⟩

theorem only_tell (text : String) : Only (Call.Views ctx s) (tell text).run :=
  only_run_tell _ (idle rfl rfl)

theorem only_trust : Only (Call.Views ctx s) (s.trust ctx).run := by
  cases s with
  | notCreated => exact only_tell _
  | existing phase config =>
      cases phase with
      | running =>
          refine only_run_bind (only_run_adapt (only_call ?_)) fun pem => ?_
          · exact ⟨.print rfl (by simp [Guest.printingCommands]), rfl⟩
          refine only_run_bind (only_call (idle rfl rfl)) fun _ => ?_
          exact only_run_bind (only_run_log _) fun _ => only_tell _
      | _ => exact only_tell _
  | invalid => exact only_run_throw _

theorem only_target (found : Snapshot) : Only (Call.Views ctx s) found.target.run := by
  cases found with
  | notCreated => exact only_tell _
  | existing phase config =>
      cases phase with
      | running => exact only_run_bind (only_call (idle rfl rfl)) fun _ => only_tell _
      | _ => exact only_tell _
  | invalid => exact only_run_throw _

theorem only_ssh : Only (Call.Views ctx s) (s.ssh ctx).run := by
  cases s with
  | notCreated => exact only_tell _
  | existing phase config =>
      have hsession : Only (Call.Views ctx (.existing phase config))
          (Snapshot.openSession ctx config).run :=
        only_run_adapt (only_call ⟨.session rfl, rfl⟩)
      cases phase <;> first | exact hsession | exact only_tell _
  | invalid => exact only_run_throw _

theorem only_writeFile (path content : String) :
    Only (Call.Views ctx s) (DebugBundle.writeFile path content).run :=
  only_run_adapt (only_call (idle rfl rfl))

theorem only_writeOutputs (hs : s.config? = some config) (target : String)
    (files : List (String × String)) (h : ∀ f ∈ files, f.2 ∈ Guest.printingCommands) :
    Only (Call.Views ctx s) (DebugBundle.writeOutputs ctx config target files).run := by
  induction files with
  | nil => exact only_run_pure ()
  | cons file files ih =>
      refine only_run_bind ?_ fun _ => ih fun f hf => h f (by simp [hf])
      refine only_run_bind (only_run_lift (only_call ?_)) fun reply => ?_
      · exact ⟨.print hs (h file (by simp)), rfl⟩
      split
      · exact only_writeFile _ _
      · exact only_run_bind (only_run_log _) fun _ => only_writeFile _ _

theorem only_gather (hs : s.config? = some config) (dir : String) (includeGuest : Bool) :
    Only (Call.Views ctx s) (DebugBundle.gather ctx config dir includeGuest).run := by
  have hprinting : ∀ f ∈ DebugBundle.diagnostics, f.2 ∈ Guest.printingCommands := by
    intro f hf
    exact List.mem_append_right _ (List.mem_map_of_mem hf)
  refine only_run_bind (only_run_lift (only_call (idle rfl rfl))) fun stamp => ?_
  refine only_run_bind (only_run_adapt (only_call (idle rfl rfl))) fun _ => ?_
  refine only_run_bind (only_run_adapt (only_call (idle rfl rfl))) fun info => ?_
  refine only_run_bind (only_writeFile _ _) fun _ => ?_
  split
  · refine only_run_bind (only_writeOutputs hs _ _ hprinting) fun _ => ?_
    exact only_run_bind (only_run_log _) fun _ => only_tell _
  · exact only_run_bind (only_run_log _) fun _ => only_tell _

theorem only_debugLogs (dir : String) : Only (Call.Views ctx s) (s.debugLogs ctx dir).run := by
  cases s with
  | notCreated => exact only_tell _
  | existing phase config =>
      cases phase <;> first | exact only_gather rfl dir _ | exact only_tell _
  | invalid => exact only_run_throw _

end Views

namespace Looks

theorem only_tell (text : String) : Only (Call.Looks ctx s) (tell text).run :=
  (Views.only_tell text).mono fun _ h => h.1

theorem only_ensure (required : UInt64) :
    Only (Call.Looks ctx s) (Memory.ensure required).run := by
  refine only_run_bind (only_run_adapt (only_call (.idle rfl))) fun free => ?_
  split
  · exact only_run_pure ()
  · refine only_run_bind (only_run_log _) fun _ => ?_
    refine only_run_bind (only_run_lift (only_call (.idle rfl))) fun agreed => ?_
    split
    · exact only_run_pure ()
    · exact only_run_throw _

theorem only_checkExisting (start : StartOptions) (needsMemory : Bool) :
    Only (Call.Looks ctx s) (Snapshot.checkExisting config start needsMemory).run := by
  refine only_run_bind (only_run_except _) fun _ => ?_
  split
  · exact only_ensure _
  · exact only_run_pure ()

theorem only_checkStart (start : StartOptions) (found : Snapshot) :
    Only (Call.Looks ctx s) (Snapshot.checkStart ctx start found).run := by
  cases found with
  | notCreated =>
      refine only_run_bind (only_run_except _) fun _ => ?_
      dsimp only
      split
      · exact only_run_throw _
      · exact only_run_bind (only_run_except _) fun _ => only_ensure _
  | existing phase config => cases phase <;> first | exact only_checkExisting _ _ | trivial
  | invalid => exact only_run_throw _

theorem only_conflictPresent {P : Call → Prop} (hregistered : P .registered)
    (hrunning : ∀ other, P (.isRunning other)) (name : String) :
    Only P (Hypervisor.conflictPresent name).run := by
  refine only_run_bind (only_call hregistered) fun names => ?_
  induction names with
  | nil => exact only_run_pure false
  | cons other others ih =>
      unfold Hypervisor.conflictAmong
      split
      · exact ih
      · refine only_run_bind (only_call (hrunning other)) fun running => ?_
        split
        · exact only_run_bind (only_run_log _) fun _ => only_run_pure true
        · exact ih

theorem only_searching {P : Call → Prop} (hregistered : P .registered)
    (hrunning : ∀ other, P (.isRunning other)) (name : String) :
    Only P (Snapshot.refuseConflict name).run := by
  refine only_run_bind (only_run_adapt (only_conflictPresent hregistered hrunning name))
    fun conflict => ?_
  split
  · exact only_run_throw _
  · exact only_run_pure ()

theorem only_refuseConflict (name : String) :
    Only (Call.Looks ctx s) (Snapshot.refuseConflict name).run :=
  only_searching (.idle rfl) (fun _ => .idle rfl) name

theorem only_trust : Only (Call.Looks ctx s) (s.trust ctx).run :=
  Views.only_trust.mono fun _ h => h.1

theorem only_target (found : Snapshot) : Only (Call.Looks ctx s) found.target.run :=
  (Views.only_target found).mono fun _ h => h.1

theorem only_ssh : Only (Call.Looks ctx s) (s.ssh ctx).run :=
  Views.only_ssh.mono fun _ h => h.1

theorem only_debugLogs (dir : String) : Only (Call.Looks ctx s) (s.debugLogs ctx dir).run :=
  (Views.only_debugLogs dir).mono fun _ h => h.1

end Looks

end VmLifecycle
