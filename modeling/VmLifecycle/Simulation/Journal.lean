import VmLifecycle.Effect.Call
import VmLifecycle.Effect.Log

/-!
# Labels of calls

How calls are named and what is noted of their arguments. Calls whose answers
differ from run to run, and those that only touch bundle files, have no label.
-/

namespace VmLifecycle.Simulation

inductive Argument where
  | text (s : String)
  | number (n : Nat)
deriving DecidableEq, Repr

structure Entry where
  label : String
  arguments : List Argument
deriving DecidableEq, Repr

/-- Stands for the port that the host had free. -/
def portToken (port : UInt16) : String :=
  if port = 0 then "0" else "<port>"

def channelArguments (channel : Channel) : List Argument :=
  [.text channel.host, .number channel.port.toNat, .number channel.timeout.milliseconds]

/-- What is noted of a call. -/
def record? : Call → Option Entry
  | .powerOn name => some ⟨"start_vm", [.text name]⟩
  | .powerOff name => some ⟨"stop_vm", [.text name]⟩
  | .suspend name => some ⟨"suspend_vm", [.text name]⟩
  | .resume name => some ⟨"resume_vm", [.text name]⟩
  | .unregister name => some ⟨"destroy_vm", [.text name]⟩
  | .isRegistered name => some ⟨"vm_exists", [.text name]⟩
  | .isRunning name => some ⟨"is_vm_running", [.text name]⟩
  | .runState name => some ⟨"vm_state", [.text name]⟩
  | .vmAddress name => some ⟨"get_vm_ip", [.text name]⟩
  | .forwardedPort name rule => some ⟨"get_host_forward_port", [.text name, .text rule]⟩
  | .resources name => some ⟨"get_vm_resources", [.text name]⟩
  | .hostOnlyAdapters => some ⟨"get_host_only_interfaces", []⟩
  | .createAdapter ip => some ⟨"create_host_only_interface", [.text ip.toText]⟩
  | .attachAdapter adapter name =>
    some ⟨"attach_network_interface", [.text adapter, .text name]⟩
  | .register name image => some ⟨"import_vm", [.text name, .text image]⟩
  | .setResources name resources =>
    some ⟨"configure_vm",
      [.text name, .number resources.memory.toNat, .number resources.cpus.toNat]⟩
  | .addForwarding name rule hostPort guestPort =>
    some ⟨"forward_port",
      [.text name, .text rule, .text (portToken hostPort), .number guestPort.toNat]⟩
  | .registered => some ⟨"list_vms", []⟩
  | .report name => some ⟨"vm_info", [.text name]⟩
  | .hostInterfaces => some ⟨"interfaces", []⟩
  | .probe ip => some ⟨"try_ip", [.text ip.toText]⟩
  | .unusedPort => none
  | .execute command channel =>
    some ⟨"run_command", .text command :: channelArguments channel⟩
  | .commandOutput command channel =>
    some ⟨"get_output", .text command :: channelArguments channel⟩
  | .openSession channel => some ⟨"start_session", channelArguments channel⟩
  | .freeMemory => some ⟨"free_memory_mb", []⟩
  | .storeCertificate pem => some ⟨"cert_store", [.text pem]⟩
  | .logIn api user password org =>
    some ⟨"cf_target", [.text api, .text user, .text password, .text org]⟩
  | .timestamp => none
  | .createDirectory _ => none
  | .writeFile _ _ => none
  | .tell text => some ⟨"say", [.text text]⟩
  | .consent question => some ⟨"confirm", [.text question]⟩

/-- The labels under which a fault for a call is looked up, in order: with its
first argument, and alone. -/
def Entry.faultKeys (e : Entry) : List String :=
  match e.arguments with
  | .text s :: _ => [e.label ++ ":" ++ s, e.label]
  | _ => [e.label]

end VmLifecycle.Simulation
