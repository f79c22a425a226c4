import VmLifecycle.Lifecycle.State
import VmLifecycle.Provision.Commands

/-!
# Snapshots

The state of one VM at the time it was asked for. Operations never change a
snapshot: after one succeeds, the VM is asked for again.
-/

namespace VmLifecycle

/-- A VM as it was found. -/
inductive Snapshot where
  | notCreated (name : String)
  | existing (phase : Phase) (config : VmConfig)
  /-- The VM is registered but could not be understood. -/
  | invalid (reason : String)
deriving DecidableEq, Repr

namespace Snapshot

def stateName : Snapshot → StateName
  | .notCreated _ => .notCreated
  | .existing phase _ => .existing phase
  | .invalid _ => .invalid

def config? : Snapshot → Option VmConfig
  | .existing _ config => some config
  | _ => none

/-- What users are told about the state. -/
def status : Snapshot → String
  | .notCreated _ => "Not Created"
  | .existing .stopped _ => "Stopped"
  | .existing .running config => Guest.statusText config.domain
  | .existing .suspended _ => "Suspended"
  | .existing .paused _ => "Suspended"
  | .existing .saved _ => "Suspended"
  | .existing .aborted _ => "Stopped"
  | .existing .unprovisioned _ =>
    "Running - provisioning incomplete, run `cf dev provision`"
  | .existing .recoverable _ =>
    "Running - unreachable, run `cf dev stop` or `cf dev destroy`"
  | .invalid reason => "Invalid - " ++ reason

def describe (s : Snapshot) : String :=
  let config := match s.config? with
    | some config => "Some(" ++ config.describe ++ ")"
    | none => "None"
  "Vm \x7b state: " ++ s.stateName.describe ++ ", config: " ++ config ++ " \x7d"

end Snapshot

end VmLifecycle
