import VmLifecycle.Proofs.Effect.Changes
import VmLifecycle.Proofs.Effect.Only
import VmLifecycle.Proofs.Lifecycle.Session
import VmLifecycle.Simulation.Guest

/-!
# Calls that keep to one VM

A call keeps to a VM if it changes no other one and reaches a guest only through
the port that the latest query was told for this VM. Between two queries that
port is fixed, so an operation on a VM that was found keeps to it if each of its
calls does.
-/

namespace VmLifecycle

open Program
open Simulation (runsScript)

/-- The way into a guest that a call takes. -/
def Call.channel? : Call → Option Channel
  | .execute _ channel => some channel
  | .commandOutput _ channel => some channel
  | .openSession channel => some channel
  | _ => none

/-- How long a call in a guest may take. -/
def Settings.limit (settings : Settings) : Call → Duration
  | .execute command _ =>
    if runsScript command then settings.provisionTimeout else settings.sshTimeout
  | .commandOutput command _ =>
    if runsScript command then settings.provisionTimeout else settings.sshTimeout
  | _ => settings.sshTimeout

/-- The port that is known to lead to the guest of a VM after one more exchange.
Each query of a VM begins with nothing known. -/
def portAfter (name : String) (port? : Option UInt16) : Exchange → Option UInt16
  | ⟨.isRegistered _, _⟩ => none
  | ⟨.forwardedPort vm rule, .ok port⟩ =>
    if vm = name ∧ rule = Guest.sshRule then some port else port?
  | _ => port?

/-- A call that keeps to one VM and to the port that is known for it. -/
structure Confined (ctx : Context) (name : String) (port? : Option UInt16) (call : Call) :
    Prop where
  changes : ∀ other, call.changes? = some other → other = name
  reaches : ∀ channel, call.channel? = some channel → ∃ port, port? = some port ∧
    channel = ⟨"127.0.0.1", port, ctx.settings.limit call⟩

/-- A trace whose calls keep to one VM and to the port that is known for it at
the time. -/
def Isolated (ctx : Context) (name : String) : Option UInt16 → List Exchange → Prop
  | _, [] => True
  | port?, x :: trace =>
    Confined ctx name port? x.call ∧ Isolated ctx name (portAfter name port? x) trace

variable {ctx : Context} {name : String} {port? : Option UInt16}

theorem Isolated.changes {trace : List Exchange} (h : Isolated ctx name port? trace)
    {x : Exchange} (hx : x ∈ trace) {other : String} (hother : x.call.changes? = some other) :
    other = name := by
  induction trace generalizing port? with
  | nil => cases hx
  | cons y trace ih =>
      rcases List.mem_cons.1 hx with rfl | hx
      · exact h.1.changes other hother
      · exact ih h.2 hx

theorem confined_of_idle {call : Call} (hchanges : call.changes? = none)
    (hchannel : call.channel? = none) : Confined ctx name port? call where
  changes := by simp [hchanges]
  reaches := by simp [hchannel]

/-! ## Calls that leave the known port alone -/

/-- A call after which the same port is known, however it is answered. -/
def Call.isSettled : Call → Bool
  | .isRegistered _ => false
  | .forwardedPort _ _ => false
  | _ => true

theorem portAfter_of_isSettled {x : Exchange} (h : x.call.isSettled = true) :
    portAfter name port? x = port? := by
  obtain ⟨call, reply⟩ := x
  cases call <;> first | rfl | cases h

/-- A call of an operation on a VM that was found already. -/
structure Calm (ctx : Context) (name : String) (port? : Option UInt16) (call : Call) : Prop
    extends Confined ctx name port? call where
  settled : call.isSettled = true

/-- A snapshot of the VM called `name`, found when `port?` was known of it. -/
def Snapshot.IsOf (name : String) (port? : Option UInt16) : Snapshot → Prop
  | .notCreated missing => missing = name
  | .existing _ config => config.name = name ∧ port? = some config.sshPort
  | .invalid _ => True

namespace Calm

/-- A call that changes nothing and goes to no guest. -/
theorem of_idle {call : Call} (hchanges : call.changes? = none)
    (hchannel : call.channel? = none) (hsettled : call.isSettled = true) :
    Calm ctx name port? call where
  toConfined := confined_of_idle hchanges hchannel
  settled := hsettled

theorem of_channel {call : Call} {port : UInt16} (hchanges : call.changes? = none)
    (hchannel : call.channel? = some ⟨Guest.sshAddress, port, ctx.settings.limit call⟩)
    (hsettled : call.isSettled = true) :
    Calm ctx name (some port) call where
  changes := by simp [hchanges]
  reaches channel h := ⟨port, rfl, by rw [hchannel] at h; exact (Option.some.inj h).symm⟩
  settled := hsettled

/-! ## Commands in the guest -/

theorem of_execute {command : String} {config : VmConfig} (h : runsScript command = false) :
    Calm ctx name (some config.sshPort) (.execute command (ctx.channel config)) := by
  refine of_channel rfl ?_ rfl
  simp only [Call.channel?, Context.channel, Settings.limit, h, Bool.false_eq_true, if_false]

theorem of_commandOutput {command : String} {config : VmConfig}
    (h : runsScript command = false) :
    Calm ctx name (some config.sshPort) (.commandOutput command (ctx.channel config)) := by
  refine of_channel rfl ?_ rfl
  simp only [Call.channel?, Context.channel, Settings.limit, h, Bool.false_eq_true, if_false]

theorem of_script {command : String} {config : VmConfig}
    (h : runsScript command = true) :
    Calm ctx name (some config.sshPort) (.execute command (ctx.provisionChannel config)) := by
  refine of_channel rfl ?_ rfl
  simp only [Call.channel?, Context.provisionChannel, Settings.limit, h, if_true]

end Calm

end VmLifecycle
