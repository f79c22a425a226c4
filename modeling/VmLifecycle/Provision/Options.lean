import VmLifecycle.Json.Record
import VmLifecycle.StartOptions
import VmLifecycle.Vm.Config

/-!
# Provisioning options

What the provisioning script of the guest is run with. The options are stored
in the guest as JSON, so that an interrupted run can be completed later.
-/

namespace VmLifecycle

/-- Options of a provisioning run. -/
structure ProvisionOptions where
  domain : String
  ip : String
  services : String
  registries : List String
deriving DecidableEq, Repr

namespace ProvisionOptions

instance : Json.Record ProvisionOptions where
  members := [⟨"domain", .text⟩, ⟨"ip", .text⟩, ⟨"services", .text⟩, ⟨"registries", .texts⟩]
  toRow o := (o.domain, o.ip, o.services, o.registries, ())
  ofRow := fun (domain, ip, services, registries, ()) => ⟨domain, ip, services, registries⟩

/-- The options for a VM: its own domain and address, and what was asked for at
the start. -/
def ofStart (config : VmConfig) (options : StartOptions) (defaultServices : String) :
    ProvisionOptions :=
  ⟨config.domain, config.ip.toText, options.services.getD defaultServices, options.registries⟩

/-- Reads the options that a guest has stored; nothing but blanks means that it
has none. -/
def ofStored (output : String) : Except Json.ReadError (Option ProvisionOptions) :=
  let text := Text.trim output
  if text.isEmpty then .ok none else (Json.decode text).map some

end ProvisionOptions

end VmLifecycle
