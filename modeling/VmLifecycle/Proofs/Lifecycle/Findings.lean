import VmLifecycle.Lifecycle.Query
import VmLifecycle.Proofs.Effect.Runs

/-!
# The courses of a query

A query asks its questions in a fixed order and stops at the first that is not
answered. There are nine courses it can take, and every run of a query takes one of
them.
-/

namespace VmLifecycle

open Program

variable {ctx : Context} {name : String} {trace : List Exchange}
  {r : Option (Except LifecycleError Snapshot)}

/-- The run state of a VM that is found in a phase. -/
def Phase.runState : Phase → RunState
  | .stopped => .poweredOff
  | .running => .running
  | .suspended => .suspended
  | .paused => .paused
  | .saved => .saved
  | .aborted => .aborted
  | .unprovisioned => .running
  | .recoverable => .running

theorem Phase.runState_ne_unknown (phase : Phase) (text : String) :
    phase.runState ≠ .unknown text := by
  cases phase <;> exact nofun

theorem Phase.runState_eq_iff {phase other : Phase} (hphase : phase.runState ≠ .running) :
    phase.runState = other.runState ↔ phase = other := by
  revert hphase
  cases phase <;> cases other <;> simp [Phase.runState]

/-- The exchanges by which the configuration of a VM is read. -/
def configurationRead (name : String) (ip : Ipv4) (port : UInt16) (resources : Resources) :
    List Exchange :=
  [⟨.isRegistered name, .ok true⟩, ⟨.vmAddress name, .ok ip⟩,
   ⟨.forwardedPort name "ssh", .ok port⟩, ⟨.resources name, .ok resources⟩]

namespace Context

/-- The configuration that is made of what was read. -/
def configOf (ctx : Context) (name : String) (ip : Ipv4) (port : UInt16)
    (resources : Resources) : VmConfig :=
  ⟨name, ip, ctx.table.domainOfAddress ip, port, resources.memory, resources.cpus⟩

/-- The guest behind a port is asked whether it was provisioned. -/
def marker (ctx : Context) (port : UInt16) (reply : Except Fault String) : Exchange :=
  ⟨.commandOutput Guest.printMarkerCommand ⟨Guest.sshAddress, port, ctx.settings.sshTimeout⟩,
   reply⟩

end Context

/-- The phase that the guest's answer stands for. -/
def Guest.phaseOf : Except Fault String → Phase
  | .ok output => if Text.trim output = "provisioned" then .running else .unprovisioned
  | .error _ => .recoverable

theorem Guest.runState_phaseOf (reply : Except Fault String) :
    (phaseOf reply).runState = .running := by
  rcases reply with fault | output
  · rfl
  · show (if _ then Phase.running else .unprovisioned).runState = .running
    split
    · rfl
    · rfl

/-- The courses of a query, each with what it ends in. -/
inductive Found (ctx : Context) (name : String) :
    List Exchange → Except LifecycleError Snapshot → Prop
  | lost (fault : Fault) : Found ctx name [⟨.isRegistered name, .error fault⟩] (.error (.vm fault))
  | missing : Found ctx name [⟨.isRegistered name, .ok false⟩] (.ok (.notCreated name))
  | withoutAddress (fault : Fault) :
      Found ctx name [⟨.isRegistered name, .ok true⟩, ⟨.vmAddress name, .error fault⟩]
        (.ok (.invalid fault.message))
  | withoutPort (ip : Ipv4) (fault : Fault) :
      Found ctx name
        [⟨.isRegistered name, .ok true⟩, ⟨.vmAddress name, .ok ip⟩,
         ⟨.forwardedPort name "ssh", .error fault⟩]
        (.ok (.invalid fault.message))
  | withoutResources (ip : Ipv4) (port : UInt16) (fault : Fault) :
      Found ctx name
        [⟨.isRegistered name, .ok true⟩, ⟨.vmAddress name, .ok ip⟩,
         ⟨.forwardedPort name "ssh", .ok port⟩, ⟨.resources name, .error fault⟩]
        (.ok (.invalid fault.message))
  | withoutState (ip : Ipv4) (port : UInt16) (resources : Resources) (fault : Fault) :
      Found ctx name
        (configurationRead name ip port resources ++ [⟨.runState name, .error fault⟩])
        (.ok (.invalid fault.message))
  | unknown (ip : Ipv4) (port : UInt16) (resources : Resources) (text : String) :
      Found ctx name
        (configurationRead name ip port resources ++ [⟨.runState name, .ok (.unknown text)⟩])
        (.ok (.invalid ("unknown VM state '" ++ text ++ "'")))
  | resting (ip : Ipv4) (port : UInt16) (resources : Resources) {phase : Phase}
      (hphase : phase.runState ≠ .running) :
      Found ctx name
        (configurationRead name ip port resources ++ [⟨.runState name, .ok phase.runState⟩])
        (.ok (.existing phase (ctx.configOf name ip port resources)))
  | running (ip : Ipv4) (port : UInt16) (resources : Resources) (reply : Except Fault String) :
      Found ctx name
        (configurationRead name ip port resources ++
          [⟨.runState name, .ok .running⟩, ctx.marker port reply])
        (.ok (.existing (Guest.phaseOf reply) (ctx.configOf name ip port resources)))

/-- A run state is running, or one that the hypervisor made up, or that of a VM at
rest. -/
theorem RunState.exists_phase (state : RunState) :
    state = .running ∨ (∃ text, state = .unknown text) ∨
      ∃ phase : Phase, phase.runState ≠ .running ∧ state = phase.runState := by
  cases state with
  | running => exact .inl rfl
  | unknown text => exact .inr (.inl ⟨text, rfl⟩)
  | suspended => exact .inr (.inr ⟨.suspended, nofun, rfl⟩)
  | saved => exact .inr (.inr ⟨.saved, nofun, rfl⟩)
  | paused => exact .inr (.inr ⟨.paused, nofun, rfl⟩)
  | poweredOff => exact .inr (.inr ⟨.stopped, nofun, rfl⟩)
  | aborted => exact .inr (.inr ⟨.aborted, nofun, rfl⟩)

theorem Guest.ite_saysProvisioned (output : String) :
    (if saysProvisioned output then Phase.running else .unprovisioned) = phaseOf (.ok output) := by
  unfold saysProvisioned phaseOf
  simp only [decide_eq_true_eq]
  rfl

theorem interpret_runState {config : VmConfig} {phase : Phase}
    (hphase : phase.runState ≠ .running) :
    ctx.interpret config phase.runState = .done (.existing phase config) := by
  cases phase <;> first | rfl | exact absurd rfl hphase

theorem found_of_runs_inspect {q : Option Snapshot} (run : Runs (ctx.inspect name) trace q) :
    ∃ s, q = some s ∧ Found ctx name (⟨.isRegistered name, .ok true⟩ :: trace) (.ok s) := by
  obtain ⟨reply, rest, rfl, hport⟩ := runs_ask.1 run
  rcases reply with fault | ip
  · obtain ⟨rfl, rfl⟩ := runs_done.1 (runs_note.1 hport)
    exact ⟨_, rfl, .withoutAddress fault⟩
  obtain ⟨reply, rest, rfl, hresources⟩ := runs_ask.1 hport
  rcases reply with fault | port
  · obtain ⟨rfl, rfl⟩ := runs_done.1 (runs_note.1 hresources)
    exact ⟨_, rfl, .withoutPort ip fault⟩
  obtain ⟨reply, rest, rfl, hstate⟩ := runs_ask.1 hresources
  rcases reply with fault | resources
  · obtain ⟨rfl, rfl⟩ := runs_done.1 (runs_note.1 hstate)
    exact ⟨_, rfl, .withoutResources ip port fault⟩
  obtain ⟨reply, rest, rfl, hjudged⟩ := runs_ask.1 hstate
  rcases reply with fault | state
  · obtain ⟨rfl, rfl⟩ := runs_done.1 (runs_note.1 hjudged)
    exact ⟨_, rfl, .withoutState ip port resources fault⟩
  have hjudged : Runs ((ctx.interpret (ctx.configOf name ip port resources) state).bind
      fun s => .note (.debug "Classified VM"
        [("vm", .text name), ("state", .text s.stateName.toText)]) (.done s)) rest q :=
    hjudged
  rcases state.exists_phase with rfl | ⟨text, rfl⟩ | ⟨phase, hphase, rfl⟩
  · obtain ⟨reply, rest, rfl, hmarker⟩ := runs_ask.1 hjudged
    rcases reply with fault | output
    · obtain ⟨rfl, rfl⟩ := runs_done.1 (runs_note.1 (runs_note.1 hmarker))
      exact ⟨_, rfl, .running ip port resources (.error fault)⟩
    · obtain ⟨rfl, rfl⟩ := runs_done.1 (runs_note.1 hmarker)
      rw [Guest.ite_saysProvisioned]
      exact ⟨_, rfl, .running ip port resources (.ok output)⟩
  · obtain ⟨rfl, rfl⟩ := runs_done.1 (runs_note.1 hjudged)
    exact ⟨_, rfl, .unknown ip port resources text⟩
  · rw [interpret_runState hphase] at hjudged
    obtain ⟨rfl, rfl⟩ := runs_done.1 (runs_note.1 hjudged)
    exact ⟨_, rfl, .resting ip port resources hphase⟩

/-- Every run of a query is one of its courses. -/
theorem found_of_runs_query (run : Runs (ctx.query name).run trace r) :
    ∃ outcome, r = some outcome ∧ Found ctx name trace outcome := by
  obtain ⟨reply, rest, rfl, hinspect⟩ := runs_ask.1 run
  rcases reply with fault | registered
  · obtain ⟨rfl, rfl⟩ := runs_done.1 hinspect
    exact ⟨_, rfl, .lost fault⟩
  cases registered with
  | false =>
      obtain ⟨rfl, rfl⟩ := runs_done.1 (runs_note.1 hinspect)
      exact ⟨_, rfl, .missing⟩
  | true =>
      have hinspect : Runs ((ctx.inspect name).bind fun s => .done (.ok s)) rest r := hinspect
      rcases runs_bind.1 hinspect with ⟨s, first, second, rfl, hfirst, hsecond⟩ | ⟨hfirst, -⟩
      · obtain ⟨s, hs, hfound⟩ := found_of_runs_inspect hfirst
        cases hs
        obtain ⟨rfl, rfl⟩ := runs_done.1 hsecond
        rw [List.append_nil]
        exact ⟨_, rfl, hfound⟩
      · obtain ⟨s, hs, -⟩ := found_of_runs_inspect hfirst
        cases hs

end VmLifecycle
