import VmLifecycle.Effect.Log
import VmLifecycle.Text.Path
import VmLifecycle.Vm.Name

/-!
# Settings

What the tool takes from its environment, and what it does without. Every
setting has a default; a number that cannot be read counts as not given.
-/

namespace VmLifecycle

/-- Variables of the environment with their values, which need not be text. -/
structure Environment where
  entries : List (String × ByteArray)

/-- The value of a variable. One that is no text counts as not set. -/
def Environment.get? (env : Environment) (name : String) : Option String :=
  (env.entries.lookup name).bind String.fromUTF8?

/-- The number that a variable holds, if it is below `bound`. -/
def Environment.number? (env : Environment) (name : String) (bound : Nat) : Option Nat :=
  (env.get? name).bind fun value => Text.unsigned? bound value.toList

structure Settings where
  vmName : String
  /-- Image to import when the VM does not exist. -/
  imagePath : String
  /-- Limit for short commands in the guest. -/
  sshTimeout : Duration
  /-- Limit for the provisioning script. -/
  provisionTimeout : Duration
  /-- Memory of a new VM, in MB, when none is asked for. -/
  defaultMemory : UInt64
  /-- Number of CPUs of a new VM when none is asked for. -/
  defaultCpus : UInt32
  /-- Services to provision when none are asked for. -/
  defaultServices : String
deriving DecidableEq, Repr

/-- Why settings cannot be worked with. -/
inductive SettingsError where
  | missingImage (path : String)
  | unrecognizedVmName (name : String)
  | insufficientMemory (memory : UInt64)
  | noCpus
deriving DecidableEq, Repr

/-- The least memory with which the platform comes up, in MB. -/
def minimumMemory : UInt64 := 3072

namespace SettingsError

def message : SettingsError → String
  | .missingImage path => "VM image not found: " ++ path
  | .unrecognizedVmName name => name ++ " is not a PCF Dev VM name"
  | .insufficientMemory memory =>
    "default memory must be at least " ++ String.ofList (Text.decimal minimumMemory.toNat) ++
      " MB, got " ++ String.ofList (Text.decimal memory.toNat)
  | .noCpus => "default CPU count must be at least 1"

end SettingsError

namespace Settings

/-- Directory below which the tool keeps its files. -/
def home (env : Environment) : String :=
  (env.get? "PCFDEV_HOME" <|> env.get? "HOME").getD "."

/-- Settings when no variable but the home directory's is set. -/
def defaults (env : Environment) : Settings where
  vmName := VmName.bundled
  imagePath :=
    Text.joinPath (Text.joinPath (Text.joinPath (home env) ".pcfdev") "ova") "pcfdev.ova"
  sshTimeout := .ofSeconds 30 0
  provisionTimeout := .ofSeconds 1200 0
  defaultMemory := 4096
  defaultCpus := 2
  defaultServices := "default"

def ofEnvironment (env : Environment) : Settings :=
  let base := defaults env
  let seconds (name : String) (otherwise : Duration) : Duration :=
    ((env.number? name UInt64.size).map fun secs => Duration.ofSeconds secs 0).getD otherwise
  { vmName := (env.get? "PCFDEV_VM_NAME").getD base.vmName
    imagePath := (env.get? "PCFDEV_OVA_PATH").getD base.imagePath
    sshTimeout := seconds "PCFDEV_SSH_TIMEOUT_SECS" base.sshTimeout
    provisionTimeout := seconds "PCFDEV_PROVISION_TIMEOUT_SECS" base.provisionTimeout
    defaultMemory :=
      ((env.number? "PCFDEV_DEFAULT_MEMORY_MB" UInt64.size).map UInt64.ofNat).getD
        base.defaultMemory
    defaultCpus :=
      ((env.number? "PCFDEV_DEFAULT_CPUS" UInt32.size).map UInt32.ofNat).getD base.defaultCpus
    defaultServices := (env.get? "PCFDEV_DEFAULT_SERVICES").getD base.defaultServices }

/-- The first problem with the settings. `fileExists` says whether a path leads
to a file. -/
def validate (s : Settings) (fileExists : String → Bool) : Except SettingsError Unit :=
  if !VmName.isManaged s.vmName then .error (.unrecognizedVmName s.vmName)
  else if s.defaultMemory < minimumMemory then .error (.insufficientMemory s.defaultMemory)
  else if s.defaultCpus = 0 then .error .noCpus
  else if !fileExists s.imagePath then .error (.missingImage s.imagePath)
  else .ok ()

/-- The warning about settings with a problem. They are used all the same: the
image, for one, is often fetched later. -/
def warning? (s : Settings) (fileExists : String → Bool) : Option LogEvent :=
  match s.validate fileExists with
  | .ok () => none
  | .error problem => some (.warn "Configuration problem" [("error", .text problem.message)])

end Settings

end VmLifecycle
