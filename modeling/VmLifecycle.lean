import VmLifecycle.Address.Ipv4
import VmLifecycle.Address.Table
import VmLifecycle.Duration
import VmLifecycle.Effect.Call
import VmLifecycle.Effect.Log
import VmLifecycle.Effect.Program
import VmLifecycle.Effect.Trace
import VmLifecycle.Fault
import VmLifecycle.Hypervisor
import VmLifecycle.Json.Numeral
import VmLifecycle.Json.Pass
import VmLifecycle.Json.Reader
import VmLifecycle.Json.Record
import VmLifecycle.Json.Scalar
import VmLifecycle.Json.StringToken
import VmLifecycle.Lifecycle.DebugBundle
import VmLifecycle.Lifecycle.Error
import VmLifecycle.Lifecycle.Operations
import VmLifecycle.Lifecycle.Query
import VmLifecycle.Lifecycle.Snapshot
import VmLifecycle.Lifecycle.Start
import VmLifecycle.Lifecycle.State
import VmLifecycle.Memory.Consent
import VmLifecycle.Memory.Meminfo
import VmLifecycle.Network.Interface
import VmLifecycle.Network.Probe
import VmLifecycle.Network.Selection
import VmLifecycle.Proofs.Effect.Changes
import VmLifecycle.Proofs.Effect.FailStop
import VmLifecycle.Proofs.Effect.Only
import VmLifecycle.Proofs.Effect.Runs
import VmLifecycle.Proofs.Guest.DoubleQuotes
import VmLifecycle.Proofs.Guest.Shell
import VmLifecycle.Proofs.Hypervisor.Registration
import VmLifecycle.Proofs.Hypervisor.RunStates
import VmLifecycle.Proofs.Json.RoundTrip
import VmLifecycle.Proofs.Json.Takes
import VmLifecycle.Proofs.Lifecycle.Calm
import VmLifecycle.Proofs.Lifecycle.Confinement
import VmLifecycle.Proofs.Lifecycle.Inspection
import VmLifecycle.Proofs.Lifecycle.Isolation
import VmLifecycle.Proofs.Lifecycle.Session
import VmLifecycle.Proofs.Network.Collision
import VmLifecycle.Proofs.Network.FirstFit
import VmLifecycle.Proofs.Provision.Resumption
import VmLifecycle.Proofs.Provision.ScriptCommand
import VmLifecycle.Proofs.Provision.Storing
import VmLifecycle.Provision.Commands
import VmLifecycle.Provision.Options
import VmLifecycle.Provision.Run
import VmLifecycle.Settings
import VmLifecycle.Simulation.Guest
import VmLifecycle.Simulation.Journal
import VmLifecycle.Simulation.Run
import VmLifecycle.Simulation.World
import VmLifecycle.StartOptions
import VmLifecycle.Text.Blank
import VmLifecycle.Text.Decimal
import VmLifecycle.Text.Path
import VmLifecycle.Text.Pieces
import VmLifecycle.Text.Printable
import VmLifecycle.Text.Quoted
import VmLifecycle.Vm.Config
import VmLifecycle.Vm.Name
import VmLifecycle.Vm.Resources
import VmLifecycle.Vm.RunState
import VmLifecycle.Proofs.Effect.Orderly
import VmLifecycle.Proofs.Lifecycle.Courses
import VmLifecycle.Proofs.Lifecycle.Attribution
import VmLifecycle.Proofs.Lifecycle.Transitions
import VmLifecycle.Proofs.Provision.Services
import VmLifecycle.Proofs.Effect.Along
import VmLifecycle.Proofs.Address.Lookup
import VmLifecycle.Proofs.Network.Placement
import VmLifecycle.Proofs.Hypervisor.Inventory
import VmLifecycle.Proofs.Lifecycle.Creation
import VmLifecycle.Proofs.Lifecycle.CustomAddress
import VmLifecycle.Proofs.Provision.FirstPassword
import VmLifecycle.Proofs.Lifecycle.Answers
import VmLifecycle.Proofs.Lifecycle.Classification
import VmLifecycle.Proofs.Lifecycle.MemoryConsent
import VmLifecycle.Proofs.Lifecycle.NoDeadEnd
import VmLifecycle.Proofs.Network.Verdict
import VmLifecycle.Proofs.Hypervisor.Cleanup
import VmLifecycle.Proofs.Hypervisor.Retries
import VmLifecycle.Proofs.Lifecycle.Repetition
import VmLifecycle.Proofs.Lifecycle.Admission
import VmLifecycle.Proofs.Address.TwoWay
import VmLifecycle.Proofs.Effect.Responder
import VmLifecycle.Proofs.Hypervisor.Keeping
import VmLifecycle.Proofs.Lifecycle.Settling
import VmLifecycle.Proofs.Address.Canonical
import VmLifecycle.Proofs.Json.Values
import VmLifecycle.Proofs.Json.Grammar
import VmLifecycle.Proofs.Json.Tokens
import VmLifecycle.Proofs.Network.Independence
import VmLifecycle.Proofs.Lifecycle.Conflict
import VmLifecycle.Proofs.Json.Passing
import VmLifecycle.Proofs.Json.Objects
import VmLifecycle.Proofs.Json.Lists
import VmLifecycle.Proofs.Json.Layout
import VmLifecycle.Proofs.Json.Truncation
import VmLifecycle.Proofs.Lifecycle.Bundle
import VmLifecycle.Proofs.Memory.Reading
import VmLifecycle.Proofs.Provision.Damage
import VmLifecycle.Proofs.Text.Cutting
import VmLifecycle.Proofs.Lifecycle.ValidOptions
import VmLifecycle.Proofs.Since
