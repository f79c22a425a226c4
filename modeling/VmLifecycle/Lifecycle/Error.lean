import VmLifecycle.Fault
import VmLifecycle.Json.Reader
import VmLifecycle.Lifecycle.State
import VmLifecycle.Settings

/-!
# Errors of lifecycle operations

Why an operation on a VM was refused or failed. A fault met in one step of an
operation is carried in the error that names the step.
-/

namespace VmLifecycle

/-- A step of an operation in which the hypervisor or the guest can fail. -/
inductive Step where
  | start
  | stop
  | suspend
  | resume
  | destroy
  | provision
  | register
deriving DecidableEq, Repr

def Step.toText : Step → String
  | .start => "start"
  | .stop => "stop"
  | .suspend => "suspend"
  | .resume => "resume"
  | .destroy => "destroy"
  | .provision => "provision"
  | .register => "import"

/-- What is wrong with the options of a start. -/
inductive OptionProblem where
  | noCpus
  | unknownService (name : String)
  | blankRegistry
  | tooLittleMemory
  /-- Address and domain, as given, lie in different subnets. -/
  | addressOutsideDomain (ip domain : String)
  /-- A problem that was only put into words. -/
  | worded (text : String)
deriving DecidableEq, Repr

def OptionProblem.message : OptionProblem → String
  | .noCpus => "cpus must be at least 1"
  | .unknownService name => name ++ " is not a supported service"
  | .blankRegistry => "registry must not be empty"
  | .tooLittleMemory =>
    "PCF Dev requires at least " ++ String.ofList (Text.decimal minimumMemory.toNat) ++
      " MB of memory"
  | .addressOutsideDomain ip domain => "IP " ++ ip ++ " does not belong to domain " ++ domain
  | .worded text => text

/-- Why an operation did not succeed. -/
inductive LifecycleError where
  | failed (step : Step) (cause : Fault)
  | conflict
  /-- The VM cannot be operated on until it is destroyed. -/
  | unusable (reason : String)
  /-- The VM is running but cannot be reached. -/
  | recoverable
  /-- The VM is running but provisioning never completed. -/
  | unprovisioned
  | notRunning (operation : Operation)
  | mustResume (operation : Operation)
  /-- The operation has no meaning in the state of the VM. -/
  | unsupported (operation : Operation) (state : StateName)
  | fixedOption (option : String)
  | invalidOption (problem : OptionProblem)
  | declined
  | noStoredOptions
  | host (text : String)
  | vm (cause : Fault)
  | json (error : Json.ReadError)
  | io (error : IoError)
deriving DecidableEq, Repr

namespace LifecycleError

/-- The message of an error, given the words for JSON faults. -/
def messageWith (jsonText : Json.ReadError → String) : LifecycleError → String
  | .failed step cause => "failed to " ++ step.toText ++ " VM: " ++ cause.message
  | .conflict => "old version of PCF Dev already running, please run `cf dev destroy` to continue"
  | .unusable reason =>
    "PCF Dev is in an invalid state (" ++ reason ++ "), please run `cf dev destroy`"
  | .recoverable =>
    "PCF Dev is in a bad state, please run `cf dev stop` or `cf dev destroy`"
  | .unprovisioned =>
    "PCF Dev is running but not provisioned, " ++
      "please run `cf dev provision` or `cf dev destroy`"
  | .notRunning operation => "cannot " ++ operation.toText ++ ": PCF Dev is not running"
  | .mustResume operation =>
    "cannot " ++ operation.toText ++
      ": PCF Dev is suspended, please run `cf dev resume` first"
  | .unsupported operation state =>
    "cannot " ++ operation.toText ++ " while PCF Dev is " ++ state.toText
  | .fixedOption option => option ++ " cannot be changed once the VM has been created"
  | .invalidOption problem => "invalid start option: " ++ problem.message
  | .declined => "user declined to continue, exiting"
  | .noStoredOptions =>
    "missing provisioning configuration, please run `cf dev destroy` and `cf dev start`"
  | .host text => text
  | .vm cause => "VM error: " ++ cause.message
  | .json error => "JSON error: " ++ jsonText error
  | .io error => "I/O error: " ++ error.message

def message : LifecycleError → String :=
  messageWith Json.ReadError.message

def cause? : LifecycleError → Option Fault
  | .failed _ cause => some cause
  | .vm cause => some cause
  | _ => none

/-- The words of the error that this one is a report of, given the words for
JSON faults. -/
def sourceWith (jsonText : Json.ReadError → String) : LifecycleError → Option String
  | .failed _ cause => some cause.message
  | .vm cause => some cause.message
  | .json error => some (jsonText error)
  | .io error => some error.message
  | _ => none

end LifecycleError

end VmLifecycle
