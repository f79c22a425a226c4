import VmLifecycle.Address.Ipv4
import VmLifecycle.Effect.Log

/-!
# Liveness of an address

A host is taken to be alive if it answers a connection, be it by refusing it.
Silence, and any failure on the way, mean that nobody is there.
-/

namespace VmLifecycle

/-- How an attempt to connect ended. -/
inductive Connection where
  | accepted
  | refused
  /-- No answer within the time allowed. -/
  | silent
  /-- The network could not carry the attempt. -/
  | failed
deriving DecidableEq, Repr

/-- Whether the outcome shows a host at the address. -/
def Connection.isAnswer : Connection → Bool
  | .accepted => true
  | .refused => true
  | .silent => false
  | .failed => false

/-- A probe: the port it connects to and the time it waits. -/
structure Probe where
  port : UInt16
  timeout : Duration
deriving DecidableEq, Repr

namespace Probe

/-- The probe for a VM: two seconds on the port of SSH. -/
def ssh : Probe := ⟨22, .ofSeconds 2 0⟩

def event (p : Probe) (ip : Ipv4) (outcome : Connection) : LogEvent :=
  .trace "Probed address" [("ip", .text ip.toText), ("port", .number p.port.toNat),
    ("responds", .flag outcome.isAnswer)]

def describe (p : Probe) : String :=
  "TcpProber \x7b port: " ++ String.ofList (Text.decimal p.port.toNat) ++
    ", timeout: " ++ p.timeout.toText ++ " \x7d"

end Probe

end VmLifecycle
