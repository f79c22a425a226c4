import VmLifecycle.Effect.Program

/-!
# Traces of programs

A trace is the list of calls that a program makes on one run, each with its
answer. Which traces a program has says all that can be observed of it, for
every way in which the outside may answer.
-/

namespace VmLifecycle

structure Exchange where
  call : Call
  reply : call.Reply

namespace Program

variable {α β : Type}

/-- `Runs p trace r`: on the answers in `trace`, the program makes exactly the
calls in it and ends in `r`, or gives up if `r` is `none`. -/
inductive Runs : Program α → List Exchange → Option α → Prop where
  | done (a : α) : Runs (.done a) [] (some a)
  | ask {call : Call} {next : call.Reply → Program α} {trace : List Exchange} {r : Option α}
      (reply : call.Reply) (run : Runs (next reply) trace r) :
      Runs (.ask call next) (⟨call, reply⟩ :: trace) r
  | note {event : LogEvent} {rest : Program α} {trace : List Exchange} {r : Option α}
      (run : Runs rest trace r) : Runs (.note event rest) trace r
  | unsettled : Runs .unsettled [] none

@[simp] theorem runs_done {a : α} {trace : List Exchange} {r : Option α} :
    Runs (.done a) trace r ↔ trace = [] ∧ r = some a := by
  constructor
  · rintro ⟨⟩
    exact ⟨rfl, rfl⟩
  · rintro ⟨rfl, rfl⟩
    exact .done a

@[simp] theorem runs_note {event : LogEvent} {rest : Program α} {trace : List Exchange}
    {r : Option α} : Runs (.note event rest) trace r ↔ Runs rest trace r := by
  constructor
  · rintro ⟨⟩
    assumption
  · exact .note

@[simp] theorem runs_unsettled {trace : List Exchange} {r : Option α} :
    Runs (.unsettled : Program α) trace r ↔ trace = [] ∧ r = none := by
  constructor
  · rintro ⟨⟩
    exact ⟨rfl, rfl⟩
  · rintro ⟨rfl, rfl⟩
    exact .unsettled

theorem runs_ask {call : Call} {next : call.Reply → Program α} {trace : List Exchange}
    {r : Option α} : Runs (.ask call next) trace r ↔
      ∃ reply rest, trace = ⟨call, reply⟩ :: rest ∧ Runs (next reply) rest r := by
  constructor
  · rintro ⟨⟩
    exact ⟨_, _, rfl, by assumption⟩
  · rintro ⟨reply, rest, rfl, run⟩
    exact .ask reply run

/-- A run of two programs in a row is a run of the first, and then, unless it
gave up, one of the second. -/
theorem runs_bind {p : Program α} {f : α → Program β} {trace : List Exchange} {r : Option β} :
    Runs (p.bind f) trace r ↔
      (∃ a first second, trace = first ++ second ∧ Runs p first (some a) ∧
        Runs (f a) second r) ∨ (Runs p trace none ∧ r = none) := by
  induction p generalizing trace with
  | done a =>
    simp only [bind, runs_done]
    constructor
    · exact fun h => .inl ⟨a, [], trace, rfl, ⟨rfl, rfl⟩, h⟩
    · rintro (⟨_, _, _, rfl, ⟨rfl, h⟩, h2⟩ | ⟨⟨_, h⟩, _⟩)
      · cases h
        exact h2
      · cases h
  | ask call next ih =>
    simp only [bind, runs_ask, ih]
    constructor
    · rintro ⟨reply, rest, rfl, h⟩
      rcases h with ⟨a, first, second, rfl, h1, h2⟩ | ⟨h, rfl⟩
      · exact .inl ⟨a, _ :: first, second, rfl, ⟨reply, first, rfl, h1⟩, h2⟩
      · exact .inr ⟨⟨reply, rest, rfl, h⟩, rfl⟩
    · rintro (⟨a, first, second, rfl, ⟨reply, tail, rfl, h1⟩, h2⟩ | ⟨⟨reply, rest, rfl, h⟩, rfl⟩)
      · exact ⟨reply, tail ++ second, rfl, .inl ⟨a, tail, second, rfl, h1, h2⟩⟩
      · exact ⟨reply, rest, rfl, .inr ⟨h, rfl⟩⟩
  | note event rest ih => simp only [bind, runs_note, ih]
  | unsettled => simp [bind]

end Program

end VmLifecycle
