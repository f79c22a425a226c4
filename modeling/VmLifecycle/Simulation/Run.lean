import VmLifecycle.Effect.Program
import VmLifecycle.Simulation.Guest
import VmLifecycle.Simulation.Journal

/-!
# Running a program in the simulated world

Every call is noted, then fails if a fault was prepared for it, and then has its
effect.
-/

namespace VmLifecycle.Simulation

namespace World

def fault? (w : World) (c : Call) : Option Fault :=
  (record? c).bind fun e => e.faultKeys.findSome? fun key => w.faults.lookup key

def toolError? (w : World) (c : Call) : Option LifecycleError :=
  (record? c).bind fun e => w.toolErrors.lookup e.label

/-- The answer to a call that meets no prepared fault, and its effect. -/
def effect (w : World) : (c : Call) → c.Reply × World
  | .powerOn name => w.alter name fun m => { m with state := .running }
  | .powerOff name => w.alter name fun m => { m with state := .poweredOff }
  | .suspend name => w.alter name fun m => { m with state := .suspended }
  | .resume name => w.alter name fun m => { m with state := .running }
  | .unregister name =>
    match w.machine? name with
    | some _ => (.ok (), w.without name)
    | none => (.error (notFound name), w)
  | .isRegistered name => (.ok (w.machine? name).isSome, w)
  | .isRunning name => (w.inspect name fun m => .ok (m.state = .running), w)
  | .runState name => (w.inspect name fun m => .ok m.state, w)
  | .vmAddress name => (w.inspect name w.addressOf, w)
  | .forwardedPort name rule =>
    (w.inspect name fun m =>
      match m.ports.lookup rule with
      | some port => .ok port
      | none => .error (.hypervisor ("no forwarding rule " ++ rule)), w)
  | .resources name => (w.inspect name fun m => .ok m.resources, w)
  | .hostOnlyAdapters => (.ok w.hostOnly, w)
  | .createAdapter ip =>
    let name := "vboxnet" ++ String.ofList (Text.decimal w.hostOnly.length)
    (.ok name, { w with hostOnly := w.hostOnly ++ [.present name ip] })
  | .attachAdapter adapter name =>
    w.alter name fun m => { m with adapter := some adapter, ip := none }
  | .register name _ =>
    (.ok (), { w.without name with machines := (w.without name).machines ++ [w.imported name] })
  | .setResources name resources => w.alter name fun m => { m with resources := resources }
  | .addForwarding name rule _ _ =>
    let w := { w with forwarded := w.forwarded + 1 }
    w.alter name fun m =>
      { m with ports := setPort rule (UInt16.ofNat (40000 + w.forwarded)) m.ports }
  | .registered => (.ok (w.machines.map (·.name)), w)
  | .report name =>
    (w.inspect name fun m =>
      .ok ("name=\"" ++ name ++ "\"\nVMState=\"" ++ m.state.toText ++ "\"\n"), w)
  | .hostInterfaces => (.ok w.host, w)
  | .probe ip => (.ok (w.live.contains ip), w)
  | .unusedPort => (.ok 49152, w)
  | .execute text _ =>
    let (reply, w) := w.command text
    (reply.map fun _ => (), w)
  | .commandOutput text _ => w.command text
  | .openSession _ =>
    (if w.unreachable then .error (.ssh "connection refused") else .ok (), w)
  | .freeMemory => (w.freeMemory, w)
  | .storeCertificate _ => (.ok (), w)
  | .logIn _ _ _ _ => (.ok (), w)
  | .timestamp => ("<timestamp>", w)
  | .createDirectory _ =>
    match w.bundlePlace with
    | .directory => (.ok (), { w with bundles := w.bundles + 1 })
    | .plainFile => (.error .notADirectory, w)
  | .writeFile path content => (.ok (), { w with files := w.files ++ [(path, content)] })
  | .tell _ => ((), w)
  | .consent _ =>
    match w.answers with
    | [] => (false, w)
    | answer :: answers => (answer, { w with answers := answers })

/-- The reply that carries a fault, for the calls that can meet one. -/
def faulty (fault : Fault) : (c : Call) → Option c.Reply
  | .powerOn _ => some (.error fault)
  | .powerOff _ => some (.error fault)
  | .suspend _ => some (.error fault)
  | .resume _ => some (.error fault)
  | .unregister _ => some (.error fault)
  | .isRegistered _ => some (.error fault)
  | .isRunning _ => some (.error fault)
  | .runState _ => some (.error fault)
  | .vmAddress _ => some (.error fault)
  | .forwardedPort _ _ => some (.error fault)
  | .resources _ => some (.error fault)
  | .hostOnlyAdapters => some (.error fault)
  | .createAdapter _ => some (.error fault)
  | .attachAdapter _ _ => some (.error fault)
  | .register _ _ => some (.error fault)
  | .setResources _ _ => some (.error fault)
  | .addForwarding _ _ _ _ => some (.error fault)
  | .registered => some (.error fault)
  | .report _ => some (.error fault)
  | .hostInterfaces => some (.error fault)
  | .probe _ => some (.error fault)
  | .unusedPort => some (.error fault)
  | .execute _ _ => some (.error fault)
  | .commandOutput _ _ => some (.error fault)
  | .openSession _ => some (.error fault)
  | .freeMemory => some (.error fault)
  | .storeCertificate _ => none
  | .logIn _ _ _ _ => none
  | .timestamp => none
  | .createDirectory _ => none
  | .writeFile _ _ => none
  | .tell _ => none
  | .consent _ => none

/-- The reply that carries an error of a tool of the host. -/
def toolFailure (error : LifecycleError) : (c : Call) → Option c.Reply
  | .storeCertificate _ => some (.error error)
  | .logIn _ _ _ _ => some (.error error)
  | _ => none

/-- The reply that was prepared for a call, if it is to fail. -/
def failure? (w : World) (c : Call) : Option c.Reply :=
  ((w.fault? c).bind fun fault => faulty fault c) <|>
    ((w.toolError? c).bind fun error => toolFailure error c)

def respond (w : World) (c : Call) : c.Reply × World :=
  match w.failure? c with
  | some reply => (reply, w)
  | none => w.effect c

end World

/-- A world with what was noted in it, latest first. -/
structure Session where
  world : World
  calls : List Entry
  log : List LogEvent

namespace Session

def start (world : World) : Session :=
  ⟨world, [], []⟩

/-- Runs a program to its end. A program that gives up has no result. -/
def run {α : Type} (s : Session) : Program α → Option α × Session
  | .done a => (some a, s)
  | .ask call next =>
    let (reply, world) := s.world.respond call
    run { s with world := world, calls := (record? call).toList ++ s.calls } (next reply)
  | .note event rest => run { s with log := event :: s.log } rest
  | .unsettled => (none, s)

end Session

end VmLifecycle.Simulation
