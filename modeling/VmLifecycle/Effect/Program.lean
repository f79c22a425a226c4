import VmLifecycle.Effect.Call
import VmLifecycle.Effect.Log

/-!
# Programs over calls

A program is a finite tree: it makes a call and goes on as the answer decides,
or notes a log event and goes on, or ends. It says nothing of who answers, so
whatever is shown of a program holds for all answers. Attempts end in a fault
or a value, and actions in a lifecycle error or a value.
-/

namespace VmLifecycle

inductive Program (α : Type) : Type where
  | done (a : α)
  | ask (call : Call) (next : call.Reply → Program α)
  | note (event : LogEvent) (rest : Program α)
  /-- Gives up without a result, since a bound on its repetitions was met. -/
  | unsettled

namespace Program

variable {α β γ : Type}

def bind : Program α → (α → Program β) → Program β
  | .done a, f => f a
  | .ask call next, f => .ask call fun reply => (next reply).bind f
  | .note event rest, f => .note event (rest.bind f)
  | .unsettled, _ => .unsettled

instance : Monad Program where
  pure := .done
  bind := bind

@[simp] theorem pure_eq (a : α) : (pure a : Program α) = .done a := rfl

@[simp] theorem bind_eq (p : Program α) (f : α → Program β) : p >>= f = p.bind f := rfl

@[simp] theorem done_bind (a : α) (f : α → Program β) : (Program.done a).bind f = f a := rfl

@[simp] theorem ask_bind (c : Call) (next : c.Reply → Program α) (f : α → Program β) :
    (Program.ask c next).bind f = .ask c fun reply => (next reply).bind f := rfl

@[simp] theorem note_bind (event : LogEvent) (rest : Program α) (f : α → Program β) :
    (Program.note event rest).bind f = .note event (rest.bind f) := rfl

@[simp] theorem unsettled_bind (f : α → Program β) :
    (Program.unsettled : Program α).bind f = .unsettled := rfl

@[simp] theorem map_eq (f : α → β) (p : Program α) : f <$> p = p.bind fun a => .done (f a) := rfl

@[simp] theorem bind_done (p : Program α) : p.bind .done = p := by
  induction p with
  | done a => rfl
  | ask call next ih => simp only [bind, ih]
  | note event rest ih => simp only [bind, ih]
  | unsettled => rfl

theorem bind_assoc (p : Program α) (f : α → Program β) (g : β → Program γ) :
    (p.bind f).bind g = p.bind fun a => (f a).bind g := by
  induction p with
  | done a => rfl
  | ask call next ih => simp only [bind, ih]
  | note event rest ih => simp only [bind, ih]
  | unsettled => rfl

instance : LawfulMonad Program :=
  LawfulMonad.mk' Program (fun p => bind_done p) (fun _ _ => rfl) bind_assoc

def call (c : Call) : Program c.Reply :=
  .ask c .done

def log (event : LogEvent) : Program Unit :=
  .note event (.done ())

end Program

abbrev Attempt (α : Type) := ExceptT Fault Program α

abbrev Action (α : Type) := ExceptT LifecycleError Program α

/-- The outcome of a program as that of an attempt or an action. -/
def Program.outcome {ε α : Type} (p : Program (Except ε α)) : ExceptT ε Program α :=
  ExceptT.mk p

namespace Attempt

variable {α : Type}

/-- The attempt's outcome as a value: a fault in it does not end what follows. -/
def caught (a : Attempt α) : Attempt (Except Fault α) :=
  ExceptT.lift a.run

/-- A fault in the attempt becomes the failure of a step. -/
def during (step : Step) (a : Attempt α) : Action α :=
  ExceptT.adapt (.failed step) a

/-- A fault in the attempt becomes an error of its own. -/
def asAction (a : Attempt α) : Action α :=
  ExceptT.adapt .vm a

end Attempt

/-! ### Attempts and actions as programs -/

section

variable {ε α β : Type}

theorem run_bind (x : ExceptT ε Program α) (f : α → ExceptT ε Program β) :
    (x >>= f).run = x.run.bind fun
      | .ok a => (f a).run
      | .error e => .done (.error e) := rfl

@[simp] theorem run_pure (a : α) : (pure a : ExceptT ε Program α).run = .done (.ok a) := rfl

@[simp] theorem run_throw (e : ε) : (throw e : ExceptT ε Program α).run = .done (.error e) := rfl

@[simp] theorem run_outcome (p : Program (Except ε α)) : p.outcome.run = p := rfl

@[simp] theorem run_lift (p : Program α) :
    (liftM p : ExceptT ε Program α).run = p.bind fun a => .done (.ok a) := rfl

@[simp] theorem run_caught (a : Attempt α) : a.caught.run = a.run.bind fun r => .done (.ok r) := rfl

@[simp] theorem run_during (step : Step) (a : Attempt α) :
    (a.during step).run = a.run.bind fun r => .done (r.mapError (.failed step)) := rfl

@[simp] theorem run_asAction (a : Attempt α) :
    a.asAction.run = a.run.bind fun r => .done (r.mapError .vm) := rfl

end

def tell (text : String) : Action Unit :=
  ExceptT.lift (Program.call (.tell text))

end VmLifecycle
