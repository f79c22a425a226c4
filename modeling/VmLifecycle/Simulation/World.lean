import VmLifecycle.Effect.Call
import VmLifecycle.Memory.Meminfo

/-!
# A simulated outside

A small world that answers calls: registered VMs with their adapters and
forwarded ports, interfaces of the host, one guest, and a user with prepared
answers. Any call can be made to fail.
-/

namespace VmLifecycle.Simulation

structure Machine where
  name : String
  state : RunState
  adapter : Option String
  /-- Its address, if it is not that of its adapter's subnet. -/
  ip : Option Ipv4
  resources : Resources
  /-- Forwarded ports by the names of their rules. -/
  ports : List (String × UInt16)
deriving DecidableEq, Repr

inductive MemorySource where
  | free (mb : UInt64)
  /-- A file of keyed lines with this content. -/
  | file (content : String)
  | broken (fault : Fault)
deriving DecidableEq, Repr

/-- Where a diagnostic bundle is to be put. -/
inductive BundlePlace where
  /-- Below a directory, which exists or can be made. -/
  | directory
  /-- Below something that is a plain file. -/
  | plainFile
deriving DecidableEq, Repr

/-- Everything outside the program. -/
structure World where
  machines : List Machine
  /-- Host-only adapters that the hypervisor has. -/
  hostOnly : List Interface
  host : List Interface
  live : List Ipv4
  /-- Faults by the label of the calls that meet them. -/
  faults : List (String × Fault)
  /-- Errors of the host's own tools, by the label of the call. -/
  toolErrors : List (String × LifecycleError)
  /-- State of a VM that has just been imported. -/
  importState : RunState
  provisioned : Bool
  options : Option String
  unreachable : Bool
  /-- Faults of commands that contain a text. -/
  shellFaults : List (String × Fault)
  /-- Outputs of commands that contain a text. -/
  shellOutputs : List (String × String)
  memory : MemorySource
  /-- What the user will answer; after that, no. -/
  answers : List Bool
  forwarded : Nat
  bundlePlace : BundlePlace
  /-- Files of the bundles written so far, latest last. -/
  files : List (String × String)
  bundles : Nat

namespace World

/-- A world without VMs and without adapters, in which nothing fails. -/
def empty : World where
  machines := []
  hostOnly := []
  host := []
  live := []
  faults := []
  toolErrors := []
  importState := .poweredOff
  provisioned := false
  options := none
  unreachable := false
  shellFaults := []
  shellOutputs := []
  memory := .free 8192
  answers := []
  forwarded := 0
  bundlePlace := .directory
  files := []
  bundles := 0

/-- What the hypervisor says of a VM that is not registered. -/
def notFound (name : String) : Fault :=
  .hypervisor ("VM " ++ name ++ " not found")

def machine? (w : World) (name : String) : Option Machine :=
  w.machines.find? (·.name = name)

def inspect {α : Type} (w : World) (name : String) (f : Machine → Except Fault α) :
    Except Fault α :=
  match w.machine? name with
  | some m => f m
  | none => .error (notFound name)

def alter (w : World) (name : String) (f : Machine → Machine) : Except Fault Unit × World :=
  match w.machine? name with
  | some _ =>
    (.ok (), { w with machines := w.machines.map fun m => if m.name = name then f m else m })
  | none => (.error (notFound name), w)

def without (w : World) (name : String) : World :=
  { w with machines := w.machines.filter (·.name ≠ name) }

/-- Sets the state of the VMs that are listed and registered. -/
def setStates (w : World) (states : List (String × RunState)) : World :=
  states.foldl (fun w s => (w.alter s.1 fun m => { m with state := s.2 }).2) w

/-- The address of a VM: its own, or that of its adapter's subnet. -/
def addressOf (w : World) (m : Machine) : Except Fault Ipv4 :=
  match m.ip, m.adapter with
  | some ip, _ => .ok ip
  | none, none => .error (.hypervisor ("VM " ++ m.name ++ " has no host-only interface"))
  | none, some adapter =>
    match w.hostOnly.find? (·.name = adapter) with
    | some i => .ok i.ip.vmAddress
    | none => .error (.hypervisor ("interface " ++ adapter ++ " not found"))

def imported (w : World) (name : String) : Machine :=
  ⟨name, w.importState, none, none, ⟨4096, 2⟩, []⟩

/-- Replaces or adds the port of a rule. -/
def setPort (rule : String) (port : UInt16) (ports : List (String × UInt16)) :
    List (String × UInt16) :=
  if ports.any (·.1 = rule) then ports.map fun p => if p.1 = rule then (rule, port) else p
  else ports ++ [(rule, port)]

/-- The world with an empty place for bundles. -/
def withBundlePlace (w : World) (place : BundlePlace) : World :=
  { w with bundlePlace := place, files := [], bundles := 0 }

def freeMemory (w : World) : Except Fault UInt64 :=
  match w.memory with
  | .free mb => .ok mb
  | .file content => (Meminfo.ofText content).map (·.available)
  | .broken fault => .error fault

end World

end VmLifecycle.Simulation
