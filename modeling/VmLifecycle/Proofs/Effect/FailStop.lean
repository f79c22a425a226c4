import VmLifecycle.Proofs.Effect.Changes
import VmLifecycle.Proofs.Effect.Only

/-!
# Attempts that end at the first fault

Most attempts hand a fault on at once: no call is made after it, and it is what
the attempt ends in. This is a property of the tree of the program. What it says
of a run is that the error of the run is the first fault of its trace, and the
last thing that happened.
-/

namespace VmLifecycle

/-- The first fault that was met on a trace. -/
def firstFault? (trace : List Exchange) : Option Fault :=
  trace.findSome? Exchange.fault?

theorem firstFault?_append (first second : List Exchange) :
    firstFault? (first ++ second) = (firstFault? first).or (firstFault? second) :=
  List.findSome?_append

theorem fault?_of_firstFault?_none {trace : List Exchange} (h : firstFault? trace = none)
    {x : Exchange} (hx : x ∈ trace) : x.fault? = none :=
  List.findSome?_eq_none_iff.1 h x hx

namespace Program

variable {own : Fault → Prop} {α β : Type}

/-- After a fault the program ends in it, and without one it ends in a value or
in an error of its own. -/
def FailStop (own : Fault → Prop) : Program (Except Fault α) → Prop
  | .done (.ok _) => True
  | .done (.error e) => own e
  | .ask call next => ∀ reply,
    (∃ fault, Exchange.fault? ⟨call, reply⟩ = some fault ∧ next reply = .done (.error fault)) ∨
      Exchange.fault? ⟨call, reply⟩ = none ∧ FailStop own (next reply)
  | .note _ rest => FailStop own rest
  | .unsettled => False

/-- A run that fails without an error of the program's own fails in its last
exchange, and in no earlier one. -/
theorem FailStop.outcome {p : Program (Except Fault α)} {trace : List Exchange}
    {r : Option (Except Fault α)} (h : FailStop own p) (run : Runs p trace r) :
    (∃ a, r = some (.ok a) ∧ firstFault? trace = none) ∨
      (∃ e, r = some (.error e) ∧ own e ∧ firstFault? trace = none) ∨
      ∃ e before x, r = some (.error e) ∧ trace = before ++ [x] ∧
        firstFault? before = none ∧ x.fault? = some e := by
  induction run with
  | done result =>
      rcases result with e | a
      · exact .inr (.inl ⟨e, rfl, h, rfl⟩)
      · exact .inl ⟨a, rfl, rfl⟩
  | @ask call next trace r reply run ih =>
      rcases h reply with ⟨fault, hfault, hend⟩ | ⟨hnone, hnext⟩
      · -- the answer is a fault, so nothing is left to run
        rw [hend, runs_done] at run
        obtain ⟨rfl, rfl⟩ := run
        exact .inr (.inr ⟨fault, [], ⟨call, reply⟩, rfl, rfl, rfl, hfault⟩)
      · have hcons (rest : List Exchange) :
            firstFault? (⟨call, reply⟩ :: rest) = firstFault? rest := by
          rw [firstFault?, List.findSome?_cons, hnone, firstFault?]
        rcases ih hnext with ⟨a, rfl, htrace⟩ | ⟨e, rfl, he, htrace⟩ |
          ⟨e, before, x, rfl, rfl, hbefore, hx⟩
        · exact .inl ⟨a, rfl, by rw [hcons, htrace]⟩
        · exact .inr (.inl ⟨e, rfl, he, by rw [hcons, htrace]⟩)
        · exact .inr (.inr ⟨e, ⟨call, reply⟩ :: before, x, rfl, rfl, by rw [hcons, hbefore], hx⟩)
  | note _ ih => exact ih h
  | unsettled => cases h

theorem FailStop.not_runs_none {p : Program (Except Fault α)} {trace : List Exchange}
    (h : FailStop own p) : ¬ Runs p trace none := by
  intro run
  rcases h.outcome run with ⟨_, hr, _⟩ | ⟨_, hr, _⟩ | ⟨_, _, _, hr, _⟩ <;> cases hr

theorem FailStop.firstFault?_ok {p : Program (Except Fault α)} {trace : List Exchange} {a : α}
    (h : FailStop own p) (run : Runs p trace (some (.ok a))) : firstFault? trace = none := by
  rcases h.outcome run with ⟨_, _, hnone⟩ | ⟨_, hr, _⟩ | ⟨_, _, _, hr, _⟩
  · exact hnone
  · cases hr
  · cases hr

theorem FailStop.firstFault?_error {p : Program (Except Fault α)} {trace : List Exchange}
    {e : Fault} (h : FailStop own p) (run : Runs p trace (some (.error e))) :
    own e ∧ firstFault? trace = none ∨
      firstFault? trace = some e ∧ ∃ x ∈ trace, x.fault? = some e := by
  rcases h.outcome run with ⟨_, hr, _⟩ | ⟨_, hr, he, hnone⟩ | ⟨_, before, x, hr, rfl, hbefore, hx⟩
  · cases hr
  · cases hr
    exact .inl ⟨he, hnone⟩
  · cases hr
    refine .inr ⟨?_, x, by simp, hx⟩
    rw [firstFault?_append, hbefore, Option.none_or, firstFault?, List.findSome?_cons, hx]

theorem failStop_run_bind {x : Attempt α} {f : α → Attempt β} (hx : FailStop own x.run)
    (hf : ∀ a, FailStop own (f a).run) : FailStop own (x >>= f).run := by
  rw [run_bind]
  generalize x.run = p at hx
  induction p with
  | done result =>
      rcases result with e | a
      · exact hx
      · exact hf a
  | ask call next ih =>
      intro reply
      rcases hx reply with ⟨fault, hfault, hend⟩ | ⟨hnone, hnext⟩
      · refine .inl ⟨fault, hfault, ?_⟩
        show (next reply).bind _ = _
        rw [hend, done_bind]
      · exact .inr ⟨hnone, ih reply hnext⟩
  | note event rest ih => exact ih hx
  | unsettled => cases hx

/-- A call whose answer is a fault or the value that it is asked for. -/
theorem failStop_call {c : Call} {f : c.Reply → Except Fault α}
    (h : ∀ reply, Exchange.fault? ⟨c, reply⟩ = match f reply with
      | .error fault => some fault
      | .ok _ => none) :
    FailStop own (.ask c fun reply => .done (f reply)) := by
  intro reply
  have hreply := h reply
  cases hresult : f reply with
  | error fault =>
      rw [hresult] at hreply
      exact .inl ⟨fault, hreply, congrArg Program.done hresult⟩
  | ok a =>
      rw [hresult] at hreply
      refine .inr ⟨hreply, ?_⟩
      show FailStop own (.done (f reply))
      rw [hresult]
      trivial

end Program

end VmLifecycle
