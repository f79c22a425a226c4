import VmLifecycle.Lifecycle.Error
import VmLifecycle.Text.Blank

/-!
# Options of a start

What a user may ask for when starting a VM. An option that is not given falls
back to the settings for a new VM, and to the configuration of an existing one.
-/

namespace VmLifecycle

/-- Options of a start, each of which may be left out. -/
structure StartOptions where
  /-- Memory in MB. -/
  memory : Option UInt64
  cpus : Option UInt32
  services : Option String
  /-- Registries that are trusted without encryption. -/
  registries : List String
  ip : Option String
  domain : Option String
  /-- Image to import instead of the default one. -/
  imagePath : Option String
  noProvision : Bool
deriving DecidableEq, Repr

namespace StartOptions

def none : StartOptions :=
  ⟨.none, .none, .none, [], .none, .none, .none, false⟩

/-- The services that the provisioning script can install. -/
def offeredServices : List String :=
  ["all", "none", "default", "mysql", "rabbitmq", "redis", "spring-cloud-services", "scs"]

/-- The services of a comma-separated list, each without the blanks around it. -/
def serviceNames (services : String) : List String :=
  (Text.commaItems services).map Text.trim

/-- The first service of the list that is not known. -/
def unknownService? (services : String) : Option String :=
  (serviceNames services).find? fun name => !offeredServices.contains name

/-- What is wrong with the values themselves, whatever VM they are meant for. -/
def problem? (o : StartOptions) : Option OptionProblem :=
  if o.cpus = some 0 then some .noCpus
  else match o.services.bind unknownService? with
    | some name => some (.unknownService name)
    | Option.none =>
      if o.registries.any fun r => (Text.trim r).isEmpty then some .blankRegistry
      else Option.none

def validate (o : StartOptions) : Except LifecycleError Unit :=
  match o.problem? with
  | some problem => .error (.invalidOption problem)
  | Option.none => .ok ()

/-- Whether an option is given that is fixed once the VM exists. -/
def asksForCreation (o : StartOptions) : Bool :=
  o.memory.isSome || o.cpus.isSome || o.services.isSome

/-- Refuses options that are fixed once the VM exists. -/
def refuseCreationOptions (o : StartOptions) : Except LifecycleError Unit :=
  if o.memory.isSome then .error (.fixedOption "memory")
  else if o.cpus.isSome then .error (.fixedOption "cpus")
  else if o.services.isSome then .error (.fixedOption "services")
  else .ok ()

/-- One option, as it is given. -/
inductive Setting where
  | memory (mb : UInt64)
  | cpus (count : UInt32)
  | services (names : String)
  | registry (address : String)
  | ip (text : String)
  | domain (name : String)
  | imagePath (path : String)
  | noProvision
deriving DecidableEq, Repr

/-- Takes one more option. A value given again replaces the one before, and
registries add up. -/
def set (o : StartOptions) : Setting → StartOptions
  | .memory mb => { o with memory := some mb }
  | .cpus count => { o with cpus := some count }
  | .services names => { o with services := some names }
  | .registry address => { o with registries := o.registries ++ [address] }
  | .ip text => { o with ip := some text }
  | .domain name => { o with domain := some name }
  | .imagePath path => { o with imagePath := some path }
  | .noProvision => { o with noProvision := true }

/-- The options that result from giving the settings in order, if their values
are valid. -/
def build (settings : List Setting) : Except LifecycleError StartOptions :=
  let o := settings.foldl set none
  match o.validate with
  | .ok () => .ok o
  | .error e => .error e

/-- A list of settings that gives these options. -/
def toSettings (o : StartOptions) : List Setting :=
  (o.memory.map .memory).toList ++ (o.cpus.map .cpus).toList ++
    (o.services.map .services).toList ++ o.registries.map .registry ++
    (o.ip.map .ip).toList ++ (o.domain.map .domain).toList ++
    (o.imagePath.map .imagePath).toList ++ (if o.noProvision then [.noProvision] else [])

end StartOptions

end VmLifecycle
