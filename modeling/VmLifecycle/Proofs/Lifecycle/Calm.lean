import VmLifecycle.Proofs.Lifecycle.Handling

/-!
# Operations that keep to one VM

Every operation on a VM that was found makes only calls that keep to it: those
that look, those that handle the VM, and those by which it is brought up. One
lemma for each operation that a session is made of.
-/

namespace VmLifecycle.Calm

open Program
open Simulation (runsScript)

variable {ctx : Context} {name : String} {port? : Option UInt16} {config : VmConfig}
  {s : Snapshot}

/-! ## Calls -/

theorem runsScript_printingCommands :
    ∀ command ∈ Guest.printingCommands, runsScript command = false := by
  decide +kernel

theorem of_looks {call : Call} (hs : s.IsOf name port?) (h : call.Looks ctx s) :
    Calm ctx name port? call := by
  cases h with
  | idle h =>
      obtain ⟨hchanges, hchannel, hinquires⟩ := Call.isIdle_iff.1 h
      exact of_idle hchanges hchannel (Call.isSettled_of_inquires hinquires)
  | print hconfig hcommand =>
      cases s with
      | existing phase config =>
          cases hconfig
          obtain ⟨-, rfl⟩ := hs
          exact of_commandOutput (runsScript_printingCommands _ hcommand)
      | _ => cases hconfig
  | session hconfig =>
      cases s with
      | existing phase config =>
          cases hconfig
          obtain ⟨-, rfl⟩ := hs
          exact of_channel rfl rfl rfl
      | _ => cases hconfig

theorem of_handles {call : Call} (h : call.Handles name) : Calm ctx name port? call where
  changes _ := Call.changes?_of_handles h
  reaches := by simp [Call.channel?_of_handles h]
  settled := Call.isSettled_of_inquires (Call.inquires_of_handles h)

theorem of_bringsUp {call : Call} (h : call.BringsUp ctx config) :
    Calm ctx config.name (some config.sshPort) call := by
  cases h with
  | handle h => exact of_handles h
  | command h => exact of_execute h
  | script h => exact of_script h

/-! ## Operations -/

theorem only_of_looks {α : Type} {p : Program α} (hs : s.IsOf name port?)
    (h : Only (Call.Looks ctx s) p) : Only (Calm ctx name port?) p :=
  h.mono fun _ => of_looks hs

theorem only_of_handles {α : Type} {p : Program α} (h : Only (Call.Handles name) p) :
    Only (Calm ctx name port?) p :=
  h.mono fun _ => of_handles

theorem only_checkStart (start : StartOptions) (s : Snapshot) :
    Only (Calm ctx name port?) (Snapshot.checkStart ctx start s).run :=
  only_of_handles (Handles.only_of_looks ctx (Looks.only_checkStart start s))

theorem only_startExisting (start : StartOptions) (phase : Phase) :
    Only (Calm ctx config.name (some config.sshPort))
      (Snapshot.startExisting ctx start config phase).run :=
  (BringsUp.only_startExisting start phase).mono fun _ => of_bringsUp

theorem only_create (start : StartOptions) :
    Only (Calm ctx name port?) (Snapshot.create ctx name start).run :=
  only_of_handles (Handles.only_create start)

theorem only_stop (hs : s.IsOf name port?) : Only (Calm ctx name port?) s.stop.run :=
  only_of_handles (Handles.only_stop ctx hs.concerns)

theorem only_suspend (hs : s.IsOf name port?) : Only (Calm ctx name port?) s.suspend.run :=
  only_of_handles (Handles.only_suspend hs.concerns)

theorem only_resumeVm (hs : s.IsOf name port?) : Only (Calm ctx name port?) s.resume.run :=
  only_of_handles (Handles.only_resume hs.concerns)

theorem only_destroy (hs : s.IsOf name port?) : Only (Calm ctx name port?) s.destroy.run :=
  only_of_handles (Handles.only_destroy hs.concerns)

theorem only_provision (hs : s.IsOf name port?) :
    Only (Calm ctx name port?) (s.provision ctx).run := by
  cases s with
  | notCreated => exact only_run_throw _
  | existing phase config =>
      obtain ⟨rfl, rfl⟩ := hs
      cases phase with
      | unprovisioned =>
          refine only_run_bind (only_run_adapt (only_call (of_commandOutput rfl))) fun output => ?_
          split
          · exact only_run_throw _
          · exact only_run_throw _
          · exact (BringsUp.only_complete _ _).mono fun _ => of_bringsUp
      | _ => exact only_run_throw _
  | invalid => exact only_run_throw _

theorem only_trust (hs : s.IsOf name port?) :
    Only (Calm ctx name port?) (s.trust ctx).run :=
  only_of_looks hs Looks.only_trust

theorem only_target : Only (Calm ctx name port?) s.target.run :=
  only_of_handles (Handles.only_of_looks ctx (Looks.only_target s))

theorem only_ssh (hs : s.IsOf name port?) : Only (Calm ctx name port?) (s.ssh ctx).run :=
  only_of_looks hs Looks.only_ssh

theorem only_debugLogs (dir : String) (hs : s.IsOf name port?) :
    Only (Calm ctx name port?) (s.debugLogs ctx dir).run :=
  only_of_looks hs (Looks.only_debugLogs dir)

end VmLifecycle.Calm
