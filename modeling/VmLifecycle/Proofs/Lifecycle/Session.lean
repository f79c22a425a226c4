import VmLifecycle.Lifecycle.Operations

/-!
# Sessions

A session asks for one VM and does one thing with what it finds, any number of
times over. What was found before is forgotten at each request, and a request
that failed does not end the session.
-/

namespace VmLifecycle

/-- What can be asked of a VM once it was found, with what it is asked with. -/
inductive Request where
  | start (options : StartOptions)
  | stop
  | suspend
  | resume
  | destroy
  | provision
  | trust
  | target
  | ssh
  | debugLogs (dir : String)
  | checkStart (options : StartOptions)
deriving DecidableEq, Repr

def Request.apply (ctx : Context) (imports : Nat) (s : Snapshot) : Request → Action Unit
  | .start options => Snapshot.start ctx options imports s
  | .stop => s.stop
  | .suspend => s.suspend
  | .resume => s.resume
  | .destroy => s.destroy
  | .provision => s.provision ctx
  | .trust => s.trust ctx
  | .target => s.target
  | .ssh => s.ssh ctx
  | .debugLogs dir => s.debugLogs ctx dir
  | .checkStart options => Snapshot.checkStart ctx options s

namespace Context

def perform (ctx : Context) (imports : Nat) (name : String) (request : Request) :
    Action Unit := do
  let snapshot ← ctx.query name
  request.apply ctx imports snapshot

/-- Performs requests in order. Gives what became of each. -/
def session (ctx : Context) (imports : Nat) (name : String) :
    List Request → Program (List (Except LifecycleError Unit))
  | [] => return []
  | request :: requests => do
    let outcome ← (ctx.perform imports name request).run
    let outcomes ← session ctx imports name requests
    return outcome :: outcomes

end Context

end VmLifecycle
