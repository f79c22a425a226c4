import VmLifecycle.Proofs.Effect.Runs

/-!
# Programs that make only certain calls

A property of calls that holds of every call in the tree of a program holds of
every call on each of its runs. It is shown part by part, without a trace. So is a
bound on how many calls of a kind there are on a run: those of two parts in a row add
up.
-/

namespace VmLifecycle.Program

variable {ε ε' α β : Type} {P Q : Call → Prop}

/-- Every call that the program can make, however it is answered, satisfies `P`. -/
def Only (P : Call → Prop) : Program α → Prop
  | .done _ => True
  | .ask call next => P call ∧ ∀ reply, Only P (next reply)
  | .note _ rest => Only P rest
  | .unsettled => True

theorem Only.of_runs {p : Program α} {trace : List Exchange} {r : Option α} (h : Only P p)
    (run : Runs p trace r) {x : Exchange} (hx : x ∈ trace) : P x.call := by
  induction run with
  | done => cases hx
  | ask reply _ ih =>
      rcases List.mem_cons.1 hx with rfl | hx
      · exact h.1
      · exact ih (h.2 reply) hx
  | note _ ih => exact ih h hx
  | unsettled => cases hx

theorem Only.mono {p : Program α} (hPQ : ∀ c, P c → Q c) (h : Only P p) : Only Q p := by
  induction p with
  | done => trivial
  | ask call next ih => exact ⟨hPQ call h.1, fun reply => ih reply (h.2 reply)⟩
  | note event rest ih => exact ih h
  | unsettled => trivial

theorem only_bind {p : Program α} {f : α → Program β} (hp : Only P p)
    (hf : ∀ a, Only P (f a)) : Only P (p.bind f) := by
  induction p with
  | done a => exact hf a
  | ask call next ih => exact ⟨hp.1, fun reply => ih reply (hp.2 reply)⟩
  | note event rest ih => exact ih hp
  | unsettled => trivial

theorem only_call {c : Call} (h : P c) : Only P (Program.call c) :=
  ⟨h, fun _ => trivial⟩

/-! ## Attempts and actions -/

theorem only_run_bind {x : ExceptT ε Program α} {f : α → ExceptT ε Program β}
    (hx : Only P x.run) (hf : ∀ a, Only P (f a).run) : Only P (x >>= f).run := by
  rw [run_bind]
  refine only_bind hx fun result => ?_
  cases result with
  | error e => trivial
  | ok a => exact hf a

theorem only_run_pure (a : α) : Only P (pure a : ExceptT ε Program α).run :=
  trivial

theorem only_run_throw (e : ε) : Only P (throw e : ExceptT ε Program α).run :=
  trivial

theorem only_run_except (x : Except ε α) : Only P (liftExcept x : ExceptT ε Program α).run := by
  cases x <;> trivial

theorem only_run_log (event : LogEvent) :
    Only P (liftM (Program.log event) : ExceptT ε Program Unit).run :=
  trivial

theorem only_run_lift {p : Program α} (h : Only P p) :
    Only P (liftM p : ExceptT ε Program α).run :=
  only_bind h fun _ => trivial

theorem only_run_adapt {f : ε → ε'} {x : ExceptT ε Program α} (h : Only P x.run) :
    Only P (ExceptT.adapt f x).run :=
  only_bind h fun _ => trivial

theorem only_run_caught {a : Attempt α} (h : Only P a.run) : Only P a.caught.run :=
  only_bind h fun _ => trivial

theorem only_run_tell (text : String) (h : P (.tell text)) : Only P (tell text).run :=
  only_run_lift (only_call h)

/-- A step that the user is told of before and after. -/
theorem only_run_announced {before after : String} {step : Step} {a : Attempt Unit}
    (htell : ∀ text, P (.tell text)) (h : Only P a.run) :
    Only P (do tell before; a.during step; tell after : Action Unit).run := by
  refine only_run_bind (only_run_tell before (htell before)) fun _ => ?_
  exact only_run_bind (only_run_adapt h) fun _ => only_run_tell after (htell after)

/-! ## Bounds on the number of calls -/

section

variable {kind : Call → Bool} {m n : Nat}

/-- No run of the program makes more than `n` calls of the kind. -/
def AtMost (kind : Call → Bool) (n : Nat) (p : Program α) : Prop :=
  ∀ trace r, Runs p trace r → trace.countP (fun x => kind x.call) ≤ n

theorem AtMost.of_only {p : Program α} (h : Only (fun call => kind call = false) p) :
    AtMost kind 0 p := by
  intro trace r run
  have hnone : trace.countP (fun x => kind x.call) = 0 := by
    refine List.countP_eq_zero.2 fun x hx => ?_
    rw [h.of_runs run hx]
    exact Bool.false_ne_true
  exact Nat.le_of_eq hnone

theorem AtMost.mono {p : Program α} (h : AtMost kind m p) (hle : m ≤ n) : AtMost kind n p :=
  fun trace r run => Nat.le_trans (h trace r run) hle

theorem atMost_call (c : Call) : AtMost kind 1 (Program.call c) := by
  intro trace r run
  obtain ⟨reply, rfl, -⟩ := runs_call.1 run
  exact List.countP_le_length

theorem atMost_run_bind {x : ExceptT ε Program α} {f : α → ExceptT ε Program β}
    (hx : AtMost kind m x.run) (hf : ∀ a, AtMost kind n (f a).run) :
    AtMost kind (m + n) (x >>= f).run := by
  intro trace r run
  rcases runs_run_bind.1 run with ⟨a, first, second, rfl, hfirst, hsecond⟩ | ⟨e, hfirst, -⟩ |
    ⟨hfirst, -⟩
  · rw [List.countP_append]
    exact Nat.add_le_add (hx first _ hfirst) (hf a second r hsecond)
  · exact Nat.le_trans (hx trace _ hfirst) (Nat.le_add_right m n)
  · exact Nat.le_trans (hx trace _ hfirst) (Nat.le_add_right m n)

theorem atMost_run_adapt {f : ε → ε'} {x : ExceptT ε Program α} (h : AtMost kind n x.run) :
    AtMost kind n (ExceptT.adapt f x).run := by
  intro trace r run
  obtain ⟨q, hrun, -⟩ := runs_run_adapt.1 run
  exact h trace q hrun

/-- What follows a part without such calls may make all of them. -/
theorem atMost_run_bind_right {x : ExceptT ε Program α} {f : α → ExceptT ε Program β}
    (hx : Only (fun call => kind call = false) x.run) (hf : ∀ a, AtMost kind n (f a).run) :
    AtMost kind n (x >>= f).run := by
  have hsum : AtMost kind (0 + n) (x >>= f).run := atMost_run_bind (.of_only hx) hf
  rwa [Nat.zero_add] at hsum

/-- What comes before a part without such calls may make all of them. -/
theorem atMost_run_bind_left {x : ExceptT ε Program α} {f : α → ExceptT ε Program β}
    (hx : AtMost kind n x.run) (hf : ∀ a, Only (fun call => kind call = false) (f a).run) :
    AtMost kind n (x >>= f).run :=
  atMost_run_bind hx fun a => .of_only (hf a)

end

end VmLifecycle.Program
